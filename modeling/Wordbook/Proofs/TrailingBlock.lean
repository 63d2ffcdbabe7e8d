import Wordbook.Proofs.Separators

/-!
# The block at the end of a cell

The block at the end of a cell is looked for twice. It is first kept apart from
the parts, and put back behind the last of them once they are trimmed; then it is
looked for in that part alone. Both times it is the same block: the one that the
last space with an opening parenthesis behind it begins.

* `Cell.EndsInBlock`, `Cell.IsBody`: what the block is, and the text before it;
* `Cell.trailingBlock_eq_some_iff`, `Cell.splitBlock_cases`: both ways to find it;
* `Cell.Parts.splitting`: the parts of a cell and what is left of them without it.
-/

namespace Wordbook

namespace Text

theorem intercalate_pieces (sep : Char) (t : List Char) : [sep].intercalate (pieces sep t) = t := by
  induction t with
  | nil => rfl
  | cons c t ih =>
    obtain ⟨p, ps, hps⟩ := List.exists_cons_of_ne_nil (pieces_ne_nil sep t)
    by_cases hc : c = sep
    · rw [hc, pieces_cons_self, List.intercalate_cons_of_ne_nil (pieces_ne_nil sep t), ih]
      rfl
    · rw [pieces_cons_of_ne hc hps]
      cases ps with
      | nil => rw [← ih, hps, List.intercalate_singleton, List.intercalate_singleton]
      | cons q ps =>
        rw [← ih, hps, List.intercalate_cons_cons, List.intercalate_cons_cons]
        rfl

theorem suffix_of_pieces {sep : Char} {t p : List Char} {ps : List (List Char)}
    (h : pieces sep t = ps ++ [p]) : p <:+ t := by
  refine ⟨[sep].intercalate (ps ++ [[]]), ?_⟩
  rw [intercalate_concat_append, List.nil_append, ← h, intercalate_pieces]

theorem trimEnd_trimEnd (t : List Char) : trimEnd (trimEnd t) = trimEnd t :=
  List.rdropWhile_idempotent isBlank t

theorem trim_trimEnd (t : List Char) : trim (trimEnd t) = trim t := by
  have hend : trimEnd t ++ t.rtakeWhile isBlank = t := by
    rw [trimEnd, List.rtakeWhile, ← List.reverse_append, List.takeWhile_append_dropWhile,
      List.reverse_reverse]
  have hblank : isBlankText (t.rtakeWhile isBlank) :=
    List.all_eq_true.2 fun _ => List.mem_rtakeWhile_imp
  conv_rhs => rw [← hend, trim_append_blank hblank]

/-- A text that ends with no blank is cut off at no blank either. -/
theorem trimEnd_eq_self_of_suffix {s t : List Char} (ht : trimEnd t = t) (h : s <:+ t) :
    trimEnd s = s := by
  rw [trimEnd_eq_self_iff] at ht ⊢
  intro c hc
  obtain ⟨before, rfl⟩ := h
  refine ht c ?_
  rw [List.getLast?_append, Option.mem_def.1 hc]
  rfl

theorem trim_suffix {s t : List Char} (ht : trimEnd t = t) (h : s <:+ t) : trim s <:+ t := by
  have hstart : trimStart s <:+ t := (List.dropWhile_suffix _).trans h
  rwa [trim, trimEnd_eq_self_of_suffix ht hstart]

theorem trimEnd_trim (t : List Char) : trimEnd (trim t) = trim t :=
  trimEnd_trimEnd (trimStart t)

end Text

namespace Cell

open Text (pieces trim trimEnd)

/-! ## Blocks -/

/-- A text that ends in a block. No space with an opening parenthesis behind it comes after the
one that begins the block, and the parenthesis that ends the block ends the text. -/
structure EndsInBlock (t before inner : List Char) : Prop where
  eq : t = before ++ ' ' :: '(' :: (inner ++ [')'])
  last : ¬[' ', '('] <:+: '(' :: (inner ++ [')'])

/-- The text before the block that a text ends in, or all of a text that ends in none. -/
def IsBody (t body : List Char) : Prop :=
  (∃ inner, EndsInBlock t body inner) ∨ (¬∃ before inner, EndsInBlock t before inner) ∧ body = t

theorem cutAtBlock_ne_none (before after : List Char) :
    cutAtBlock (before ++ ' ' :: '(' :: after) ≠ none := by
  induction before with
  | nil =>
    rw [List.nil_append]
    unfold cutAtBlock
    cases cutAtBlock ('(' :: after) <;> exact Option.some_ne_none _
  | cons c before ih =>
    obtain ⟨cut, hcut⟩ := Option.ne_none_iff_exists'.1 ih
    rw [List.cons_append]
    unfold cutAtBlock
    rw [hcut]
    exact Option.some_ne_none _

theorem cutAtBlock_eq_none_iff {t : List Char} :
    cutAtBlock t = none ↔ ¬[' ', '('] <:+: t := by
  constructor
  · rintro hcut ⟨before, after, rfl⟩
    rw [List.append_assoc] at hcut
    exact cutAtBlock_ne_none before after hcut
  · intro hinfix
    refine Option.eq_none_iff_forall_ne_some.2 fun ⟨before, after⟩ hcut => hinfix ?_
    exact ⟨before, after, by rw [eq_of_cutAtBlock hcut, List.append_assoc]; rfl⟩

theorem endsInBlock_iff {t before inner : List Char} :
    EndsInBlock t before inner ↔
      t.getLast? = some ')' ∧ cutAtBlock t = some (before, inner ++ [')']) := by
  constructor
  · rintro ⟨rfl, hlast⟩
    exact ⟨getLast?_writeBlock before inner,
      cutAtBlock_append_of_none (cutAtBlock_eq_none_iff.2 hlast) before⟩
  · rintro ⟨-, hcut⟩
    exact ⟨eq_of_cutAtBlock hcut, cutAtBlock_eq_none_iff.1 (cutAtBlock_after hcut)⟩

namespace EndsInBlock

variable {t before inner : List Char}

theorem cutAtBlock_eq (h : EndsInBlock t before inner) :
    cutAtBlock t = some (before, inner ++ [')']) :=
  (endsInBlock_iff.1 h).2

theorem unique (h : EndsInBlock t before inner) {before' inner' : List Char}
    (h' : EndsInBlock t before' inner') : before' = before ∧ inner' = inner := by
  have heq := h'.cutAtBlock_eq.symm.trans h.cutAtBlock_eq
  obtain ⟨hbefore, hinner⟩ := Prod.mk.inj (Option.some.inj heq)
  exact ⟨hbefore, List.append_cancel_right hinner⟩

theorem append (h : EndsInBlock t before inner) (s : List Char) :
    EndsInBlock (s ++ t) (s ++ before) inner :=
  ⟨by rw [h.eq, List.append_assoc], h.last⟩

/-- Another text before a block, and what is found of it. -/
theorem trailingBlock_append (h : EndsInBlock t before inner) (s : List Char) :
    trailingBlock (s ++ writeBlock inner) = some (trimEnd s, inner) :=
  trailingBlock_append_block (cutAtBlock_eq_none_iff.2 h.last) s

end EndsInBlock

/-- A text ends in a block if a parenthesis ends it and a block begins somewhere. -/
theorem exists_endsInBlock_iff {t : List Char} :
    (∃ before inner, EndsInBlock t before inner) ↔ t.getLast? = some ')' ∧ [' ', '('] <:+: t := by
  constructor
  · rintro ⟨before, inner, h⟩
    refine ⟨(endsInBlock_iff.1 h).1, before, inner ++ [')'], ?_⟩
    rw [h.eq, List.append_assoc]
    rfl
  · rintro ⟨hlast, hinfix⟩
    obtain ⟨⟨before, after⟩, hcut⟩ :=
      Option.ne_none_iff_exists'.1 fun hnone => cutAtBlock_eq_none_iff.1 hnone hinfix
    obtain ⟨inner, rfl⟩ := exists_concat_of_cutAtBlock hcut hlast
    exact ⟨before, inner, endsInBlock_iff.2 ⟨hlast, hcut⟩⟩

theorem IsBody.unique {t body body' : List Char} (h : IsBody t body) (h' : IsBody t body') :
    body' = body := by
  rcases h with ⟨inner, h⟩ | ⟨hnone, rfl⟩ <;> rcases h' with ⟨inner', h'⟩ | ⟨hnone', rfl⟩
  · exact (h.unique h').1
  · exact absurd ⟨body, inner, h⟩ hnone'
  · exact absurd ⟨body', inner', h'⟩ hnone
  · rfl

theorem trailingBlock_eq_some_iff {t head inner : List Char} (ht : trimEnd t = t) :
    trailingBlock t = some (head, inner) ↔
      ∃ before, EndsInBlock t before inner ∧ head = trimEnd before := by
  constructor
  · intro h
    rw [trailingBlock, ht] at h
    dsimp only at h
    split at h
    · rename_i hlast
      obtain ⟨⟨before, after⟩, hcut, heq⟩ := Option.map_eq_some_iff.1 h
      obtain ⟨inner', rfl⟩ := exists_concat_of_cutAtBlock hcut hlast
      obtain ⟨rfl, rfl⟩ := Prod.mk.inj heq
      rw [List.dropLast_concat]
      exact ⟨before, endsInBlock_iff.2 ⟨hlast, hcut⟩, rfl⟩
    · cases h
  · rintro ⟨before, hblock, rfl⟩
    rw [hblock.eq]
    exact hblock.trailingBlock_append before

theorem trailingBlock_eq_none_iff {t : List Char} (ht : trimEnd t = t) :
    trailingBlock t = none ↔ ¬∃ before inner, EndsInBlock t before inner := by
  constructor
  · rintro hnone ⟨before, inner, hblock⟩
    have hsome := (trailingBlock_eq_some_iff ht).2 ⟨before, hblock, rfl⟩
    cases hnone.symm.trans hsome
  · intro hblock
    refine Option.eq_none_iff_forall_ne_some.2 fun ⟨head, inner⟩ hsome => hblock ?_
    obtain ⟨before, hbefore, -⟩ := (trailingBlock_eq_some_iff ht).1 hsome
    exact ⟨before, inner, hbefore⟩

theorem splitBlock_cases (t : List Char) :
    (∃ before inner, EndsInBlock t before inner ∧
        Parts.splitBlock t = (before, writeBlock inner)) ∨
      (¬∃ before inner, EndsInBlock t before inner) ∧ Parts.splitBlock t = (t, []) := by
  by_cases hblock : ∃ before inner, EndsInBlock t before inner
  · obtain ⟨before, inner, h⟩ := hblock
    refine .inl ⟨before, inner, h, ?_⟩
    rw [Parts.splitBlock, h.cutAtBlock_eq]
    exact if_pos (endsInBlock_iff.1 h).1
  · refine .inr ⟨hblock, ?_⟩
    unfold Parts.splitBlock
    split
    · rename_i hcut
      refine if_neg fun hlast => hblock (exists_endsInBlock_iff.2 ⟨hlast, ?_⟩)
      refine not_not.1 fun hinfix => ?_
      cases hcut.symm.trans (cutAtBlock_eq_none_iff.2 hinfix)
    · rfl

theorem isBody_splitBlock (t : List Char) : IsBody t (Parts.splitBlock t).1 := by
  rcases splitBlock_cases t with ⟨before, inner, h, hsplit⟩ | ⟨hnone, hsplit⟩
  · rw [hsplit]
    exact .inl ⟨inner, h⟩
  · rw [hsplit]
    exact .inr ⟨hnone, rfl⟩

namespace Parts

/-- The parts without the block at the end of the last one. -/
def bare (p : Parts) : List (List Char) :=
  p.before ++ [((trailingBlock p.last).map Prod.fst).getD p.last]

/-! ## The parts of a cell -/

variable {cell : List Char} {expected : Nat} {parts : Parts}

theorem ofCell_eq_error_iff {e : CellError} :
    ofCell cell expected = .error e ↔ ',' ∈ (splitBlock (trim cell)).1 ∧
      (pieces ',' (splitBlock (trim cell)).1).length ≠ expected ∧
      e = .partCount expected (pieces ',' (splitBlock (trim cell)).1).length := by
  rw [ofCell]
  dsimp only
  rw [List.length_map]
  by_cases hcomma : ',' ∈ (splitBlock (trim cell)).1
  · rw [if_pos (List.contains_iff_mem.2 hcomma), and_iff_right hcomma]
    by_cases hlength : (pieces ',' (splitBlock (trim cell)).1).length = expected
    · rw [if_pos hlength]
      refine iff_of_false (fun h => ?_) fun h => h.1 hlength
      cases h
    · rw [if_neg hlength, and_iff_right hlength, Except.error.injEq]
      exact eq_comm
  · rw [if_neg (by simpa using hcomma)]
    refine iff_of_false (fun h => ?_) fun h => hcomma h.1
    cases h

/-- The parts are the pieces before the block, but for blanks, with the block behind the last. -/
structure OfPieces (parts : Parts) (expected : Nat) (cell body block : List Char) : Prop where
  size : parts.size = 1 ∨ parts.size = expected
  last : ∃ last, parts.last = last ++ block ∧ (block = [] → last <:+ cell) ∧
    (parts.before ++ [last]).map trim = (pieces ',' body).map trim ∧
    ∀ part ∈ parts.before ++ [last], ',' ∉ part

theorem ofPieces_pieces {body block : List Char} (hcell : trim cell = body ++ block)
    (hlength : (pieces ',' body).length = expected) :
    OfPieces ⟨((pieces ',' body).map trim).dropLast,
      ((pieces ',' body).map trim).getLastD [] ++ block⟩ expected (trim cell) body block := by
  obtain ⟨ps, p, hps⟩ : ∃ ps p, pieces ',' body = ps ++ [p] := by
    simpa using (List.eq_nil_or_concat (pieces ',' body)).resolve_left (Text.pieces_ne_nil _ _)
  have hpieces : ((pieces ',' body).map trim).dropLast = ps.map trim ∧
      ((pieces ',' body).map trim).getLastD [] = trim p := by simp [hps]
  rw [hpieces.1, hpieces.2]
  refine ⟨.inr ?_, trim p, rfl, fun hnil => ?_, ?_, fun part hpart hmem => ?_⟩
  · rw [← hlength, hps, List.length_append, size, List.length_map, List.length_singleton]
  · rw [hnil, List.append_nil] at hcell
    rw [hcell]
    exact Text.trim_suffix (hcell ▸ Text.trimEnd_trim cell) (Text.suffix_of_pieces hps)
  · simp [hps, Text.trim_trim]
  · have hpart : part ∈ (pieces ',' body).map trim := by simpa [hps] using hpart
    obtain ⟨piece, hpiece, rfl⟩ := List.mem_map.1 hpart
    exact Text.sep_not_mem_pieces _ _ piece hpiece (Text.mem_of_mem_trim hmem)

theorem ofPieces_of_ofCell {body block : List Char}
    (hsplit : splitBlock (trim cell) = (body, block)) (h : ofCell cell expected = .ok parts) :
    parts.OfPieces expected (trim cell) body block := by
  have hcell : trim cell = body ++ block := by
    rw [(eq_splitBlock (trim cell)).1, hsplit]
  rw [ofCell, hsplit] at h
  dsimp only at h
  split at h
  · split at h
    · rename_i hlength
      obtain rfl := Except.ok.inj h
      exact ofPieces_pieces hcell (by simpa using hlength)
    · cases h
  · rename_i hcomma
    have hcomma : ',' ∉ body := by simpa using hcomma
    obtain rfl := Except.ok.inj h
    refine ⟨.inl rfl, body, hcell, fun hnil => ?_, ?_, by simpa using hcomma⟩
    · have hbody : trim cell = body := by rw [hcell, hnil, List.append_nil]
      exact hbody ▸ List.suffix_rfl
    · rw [Text.pieces_of_not_mem hcomma, List.nil_append]

/-- What is found behind the last part is what the cell ends in. -/
theorem trailingBlock_last (h : ofCell cell expected = .ok parts) {body : List Char}
    (hbody : IsBody (trim cell) body) :
    (trailingBlock parts.last = none ↔ ¬∃ before inner, EndsInBlock (trim cell) before inner) ∧
      (∀ head inner, trailingBlock parts.last = some (head, inner) →
        EndsInBlock (trim cell) body inner) ∧
      parts.bare.map trim = (pieces ',' body).map trim ∧ ∀ part ∈ parts.bare, ',' ∉ part := by
  obtain rfl := hbody.unique (isBody_splitBlock (trim cell))
  rcases splitBlock_cases (trim cell) with ⟨before, inner, hblock, hsplit⟩ | ⟨hnone, hsplit⟩
  · obtain ⟨-, last, hlast, -, hpieces, hcomma⟩ := ofPieces_of_ofCell hsplit h
    rw [hsplit]
    have hfound : trailingBlock parts.last = some (trimEnd last, inner) := by
      rw [hlast]
      exact hblock.trailingBlock_append last
    rw [bare, hfound]
    refine ⟨iff_of_false nofun (not_not_intro ⟨before, inner, hblock⟩), ?_, ?_, ?_⟩
    · rintro _ _ ⟨⟩
      exact hblock
    · simpa [Text.trim_trimEnd] using hpieces
    · intro part hpart hmem
      rcases List.mem_append.1 hpart with hpart | hpart
      · exact hcomma part (List.mem_append_left _ hpart) hmem
      · obtain rfl := List.mem_singleton.1 hpart
        exact hcomma last (by simp) (Text.mem_of_mem_trimEnd hmem)
  · obtain ⟨-, last, hlast, hsuffix, hpieces, hcomma⟩ := ofPieces_of_ofCell hsplit h
    rw [List.append_nil] at hlast
    subst hlast
    rw [hsplit]
    -- A block at the end of the last part would be one at the end of the cell.
    have hfound : trailingBlock parts.last = none := by
      have hend := Text.trimEnd_eq_self_of_suffix (Text.trimEnd_trim cell) (hsuffix rfl)
      refine (trailingBlock_eq_none_iff hend).2 fun ⟨before, inner, hblock⟩ => ?_
      obtain ⟨s, hs⟩ := hsuffix rfl
      exact hnone ⟨s ++ before, inner, hs ▸ hblock.append s⟩
    rw [bare, hfound]
    exact ⟨iff_of_true rfl hnone, nofun, hpieces, hcomma⟩

/-- Cutting a cell into parts and taking the block off the last one are at one about the block,
which is the one that the trimmed cell ends in. The cell is refused if what stands before the block
has commas and another number of pieces than is expected. Otherwise there is one part or as many as
are expected, and without the block they are these pieces, none of them with a comma. -/
theorem splitting (cell : List Char) (expected : Nat) :
    ∃ body, IsBody (trim cell) body ∧
      (∀ e, ofCell cell expected = .error e ↔ ',' ∈ body ∧ (pieces ',' body).length ≠ expected ∧
        e = .partCount expected (pieces ',' body).length) ∧
      ∀ parts, ofCell cell expected = .ok parts →
        (parts.size = 1 ∨ parts.size = expected) ∧
        (trailingBlock parts.last ≠ none ↔
          (trim cell).getLast? = some ')' ∧ [' ', '('] <:+: trim cell) ∧
        (∀ head inner, trailingBlock parts.last = some (head, inner) →
          EndsInBlock (trim cell) body inner) ∧
        parts.bare.map trim = (pieces ',' body).map trim ∧ ∀ part ∈ parts.bare, ',' ∉ part := by
  have hbody := isBody_splitBlock (trim cell)
  refine ⟨_, hbody, fun e => ofCell_eq_error_iff, fun parts hparts => ?_⟩
  obtain ⟨hfound, hinner, hpieces, hcomma⟩ := trailingBlock_last hparts hbody
  refine ⟨(ofPieces_of_ofCell rfl hparts).size, ?_, hinner, hpieces, hcomma⟩
  rw [Ne, hfound, not_not, exists_endsInBlock_iff]

end Parts

end Cell

end Wordbook
