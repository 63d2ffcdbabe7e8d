import Wordbook.Proofs.Alignment
import Wordbook.Proofs.Joined

/-!
# Cells as they are written

A cell is written with tildes between the spellings of a part, commas between
its parts, and perhaps a block of names in parentheses behind them. Reading it
takes it apart again.

* `Cell.Parts.ofCell_plain`, `Cell.Parts.ofCell_block`: the parts of a cell;
* `Cell.alternative_writePart`: the spellings of a part;
* `Creator.creates_written`: what is created from a cell with such parts.
-/

namespace Wordbook

/-- What a part of a cell with `n` variants holds: something for each of them, or one thing for
all. -/
structure Alternatives (α : Type) (n : Nat) where
  toList : List α
  length_eq : toList.length = 1 ∨ toList.length = n

namespace Alternatives

variable {α β : Type} {n : Nat}

theorem isSome_shared? (a : Alternatives α n) (k : Fin n) :
    (Cell.shared? a.toList k).isSome := by
  have hk := k.isLt
  have hlength := a.length_eq
  have hpos : a.toList ≠ [] := by
    intro hnil
    rw [hnil, List.length_nil] at hlength
    omega
  obtain ⟨x, hx⟩ := Cell.exists_shared? hpos (hlength.imp_right fun h => hk.trans_eq h.symm)
  rw [hx]
  rfl

/-- What the variant at an index has. -/
def get (a : Alternatives α n) (k : Fin n) : α := (Cell.shared? a.toList k).get (a.isSome_shared? k)

theorem shared?_toList (a : Alternatives α n) (k : Fin n) :
    Cell.shared? a.toList k = some (a.get k) :=
  (Option.some_get _).symm

theorem get_mem (a : Alternatives α n) (k : Fin n) : a.get k ∈ a.toList :=
  Cell.mem_of_shared? (a.shared?_toList k)

def map (f : α → β) (a : Alternatives α n) : Alternatives β n :=
  ⟨a.toList.map f, by simpa using a.length_eq⟩

@[simp] theorem toList_map (f : α → β) (a : Alternatives α n) :
    (a.map f).toList = a.toList.map f := rfl

@[simp] theorem get_map (f : α → β) (a : Alternatives α n) (k : Fin n) :
    (a.map f).get k = f (a.get k) := by
  have h := (a.map f).shared?_toList k
  rw [toList_map, Cell.shared?_map, a.shared?_toList] at h
  exact (Option.some.inj h).symm

end Alternatives

/-- A text that may stand for a spelling: it is trimmed, and no separator is in it. -/
structure Text.IsEntry (t : List Char) : Prop where
  ne_nil : t ≠ []
  trim_eq : trim t = t
  comma : ',' ∉ t
  tilde : '~' ∉ t

instance (t : List Char) : Decidable (Text.IsEntry t) :=
  decidable_of_iff (t ≠ [] ∧ Text.trim t = t ∧ ',' ∉ t ∧ '~' ∉ t)
    ⟨fun ⟨hne, htrim, hcomma, htilde⟩ => ⟨hne, htrim, hcomma, htilde⟩,
      fun h => ⟨h.ne_nil, h.trim_eq, h.comma, h.tilde⟩⟩

/-- A text that may stand between tildes: it is trimmed, and there is no tilde in it. -/
structure Text.IsAlternative (t : List Char) : Prop where
  ne_nil : t ≠ []
  trim_eq : trim t = t
  tilde : '~' ∉ t

theorem Text.IsEntry.isAlternative {t : List Char} (h : IsEntry t) : IsAlternative t :=
  ⟨h.ne_nil, h.trim_eq, h.tilde⟩

/-- Two texts with a space between them are one text of several words. -/
theorem Text.IsEntry.append_space {s t : List Char} (hs : IsEntry s) (ht : IsEntry t) :
    IsEntry (s ++ ' ' :: t) where
  ne_nil := List.append_ne_nil_of_left_ne_nil hs.ne_nil _
  trim_eq := trim_append_space hs.trim_eq ht.trim_eq hs.ne_nil ht.ne_nil
  comma := by
    rw [List.mem_append, List.mem_cons, not_or, not_or]
    exact ⟨hs.comma, by decide, ht.comma⟩
  tilde := by
    rw [List.mem_append, List.mem_cons, not_or, not_or]
    exact ⟨hs.tilde, by decide, ht.tilde⟩

namespace Cell

open Text (IsAlternative IsEntry isBlank isBlankText pieces trim trimEnd)

/-- The spellings of a part, with tildes between them. -/
def writePart (spellings : List (List Char)) : List Char := [' ', '~', ' '].intercalate spellings

section

variable {ts : List (List Char)}

theorem map_trim_pieces_writePart (hne : ts ≠ []) (h : ∀ t ∈ ts, IsAlternative t) :
    (pieces '~' (writePart ts)).map trim = ts :=
  Text.map_trim_pieces_intercalate [' '] [' '] (by decide) (by decide) (by decide) hne
    fun t ht => ⟨(h t ht).trim_eq, (h t ht).tilde⟩

theorem alternativeCount_writePart (hne : ts ≠ []) (h : ∀ t ∈ ts, IsAlternative t) :
    alternativeCount (writePart ts) = ts.length := by
  rw [alternativeCount, ← List.length_map, map_trim_pieces_writePart hne h]

theorem alternative_writePart {t : List Char} {k : Nat} (h : ∀ t ∈ ts, IsAlternative t)
    (ht : shared? ts k = some t) : alternative (writePart ts) k = .ok t := by
  have hmem := mem_of_shared? ht
  rw [← map_trim_pieces_writePart (List.ne_nil_of_mem hmem) h, shared?_map] at ht
  obtain ⟨piece, hpiece, htrim⟩ := Option.map_eq_some_iff.1 ht
  refine alternative_eq_ok_iff.2 ⟨piece, hpiece, ?_, htrim⟩
  rw [← Text.trim_ne_nil_iff, htrim]
  exact (h t hmem).ne_nil

end

/-- A text that may stand for a part. -/
structure IsPart (t : List Char) : Prop where
  ne_nil : t ≠ []
  trim_eq : trim t = t
  comma : ',' ∉ t

theorem IsPart.trimEnd_eq {t : List Char} (h : IsPart t) : trimEnd t = t :=
  Text.trimEnd_eq_self_iff.2 (Text.trim_eq_self_iff.1 h.trim_eq).2

theorem IsPart.append_space {s t : List Char} (hs : IsPart s) (ht : IsPart t) :
    IsPart (s ++ ' ' :: t) where
  ne_nil := List.append_ne_nil_of_left_ne_nil hs.ne_nil _
  trim_eq := Text.trim_append_space hs.trim_eq ht.trim_eq hs.ne_nil ht.ne_nil
  comma := by
    rw [List.mem_append, List.mem_cons, not_or, not_or]
    exact ⟨hs.comma, by decide, ht.comma⟩

/-- The parts of a cell, with commas between them. -/
def joinParts (parts : List (List Char)) : List Char := [',', ' '].intercalate parts

section

variable {parts : List (List Char)}

theorem joinParts_ne_nil (hne : parts ≠ []) (h : ∀ part ∈ parts, IsPart part) :
    joinParts parts ≠ [] :=
  Text.intercalate_ne_nil hne fun part hpart => (h part hpart).ne_nil

theorem trim_joinParts (h : ∀ part ∈ parts, IsPart part) :
    trim (joinParts parts) = joinParts parts :=
  Text.trim_intercalate fun part hpart => ⟨(h part hpart).trim_eq, (h part hpart).ne_nil⟩

theorem isBlankText_joinParts_append (hne : parts ≠ []) (h : ∀ part ∈ parts, IsPart part)
    (mark : List Char) : isBlankText (joinParts parts ++ mark) = false := by
  have hparts : isBlankText (joinParts parts) = false := by
    rw [← Text.trim_ne_nil_iff, trim_joinParts h]
    exact joinParts_ne_nil hne h
  rw [isBlankText, List.all_append, ← isBlankText, hparts, Bool.false_and]

theorem map_trim_pieces_joinParts (hne : parts ≠ []) (h : ∀ part ∈ parts, IsPart part) :
    (pieces ',' (joinParts parts)).map trim = parts :=
  Text.map_trim_pieces_intercalate [] [' '] (by decide) (by decide) (by decide) hne
    fun part hpart => ⟨(h part hpart).trim_eq, (h part hpart).comma⟩

end

theorem isPart_writePart {ts : List (List Char)} (hne : ts ≠ []) (h : ∀ t ∈ ts, IsEntry t) :
    IsPart (writePart ts) where
  ne_nil := Text.intercalate_ne_nil hne fun t ht => (h t ht).ne_nil
  trim_eq := Text.trim_intercalate fun t ht => ⟨(h t ht).trim_eq, (h t ht).ne_nil⟩
  comma := Text.not_mem_intercalate (by decide) fun t ht => (h t ht).comma

theorem getLast?_writePart_ne {ts : List (List Char)} (hne : ts ≠ []) (h : ∀ t ∈ ts, IsEntry t)
    {c : Char} (hend : ∀ t ∈ ts, t.getLast? ≠ some c) : (writePart ts).getLast? ≠ some c := by
  obtain ⟨t, ht, hlast⟩ := Text.exists_getLast?_intercalate hne fun t ht => (h t ht).ne_nil
  rw [writePart, hlast]
  exact hend t ht

/-! ## Blocks -/

theorem cutAtBlock_of_not_mem {t : List Char} (h : '(' ∉ t) : cutAtBlock t = none := by
  induction t with
  | nil => rfl
  | cons c t ih =>
    rw [List.mem_cons, not_or] at h
    rw [cutAtBlock, ih h.2]
    rintro after - rfl
    exact h.2 List.mem_cons_self

/-- A block is found if there is none inside it. -/
theorem cutAtBlock_append_of_none {after : List Char} (h : cutAtBlock ('(' :: after) = none)
    (s : List Char) : cutAtBlock (s ++ ' ' :: '(' :: after) = some (s, after) := by
  induction s with
  | nil => rw [List.nil_append, cutAtBlock, h]
  | cons c s ih =>
    rw [List.cons_append]
    unfold cutAtBlock
    rw [ih]

theorem cutAtBlock_cons_of_not_mem {inner : List Char} (h : '(' ∉ inner) :
    cutAtBlock ('(' :: inner) = none := by
  rw [cutAtBlock, cutAtBlock_of_not_mem h]
  intro after hspace
  exact absurd hspace (by decide)

/-- A block in parentheses, with a space before it. -/
def writeBlock (inner : List Char) : List Char := ' ' :: '(' :: (inner ++ [')'])

section

variable {inner : List Char}

theorem cutAtBlock_writeBlock (h : '(' ∉ inner) (s : List Char) :
    cutAtBlock (s ++ writeBlock inner) = some (s, inner ++ [')']) :=
  cutAtBlock_append_of_none (cutAtBlock_cons_of_not_mem (by simpa using h)) s

theorem getLast?_writeBlock (s inner : List Char) :
    (s ++ writeBlock inner).getLast? = some ')' := by
  simp [writeBlock, List.getLast?_append, List.getLast?_cons]

theorem trim_writeBlock {s : List Char} (hne : s ≠ []) (hs : trim s = s) (inner : List Char) :
    trim (s ++ writeBlock inner) = s ++ writeBlock inner := by
  have hparens : trim ('(' :: (inner ++ [')'])) = '(' :: (inner ++ [')']) := by
    have hfilled : isBlank '(' = false ∧ isBlank ')' = false := by decide
    rw [Text.trim_eq_self_iff, List.getLast?_cons, List.getLast?_concat]
    simpa using hfilled
  exact Text.trim_append_space hs hparens hne (List.cons_ne_nil _ _)

theorem trailingBlock_append_block (h : cutAtBlock ('(' :: (inner ++ [')'])) = none)
    (s : List Char) : trailingBlock (s ++ writeBlock inner) = some (trimEnd s, inner) := by
  have hend : trimEnd (s ++ writeBlock inner) = s ++ writeBlock inner := by
    rw [Text.trimEnd_eq_self_iff, getLast?_writeBlock]
    rintro _ ⟨⟩
    decide
  have hcut : cutAtBlock (s ++ writeBlock inner) = some (s, inner ++ [')']) :=
    cutAtBlock_append_of_none h s
  rw [trailingBlock, hend, if_pos (getLast?_writeBlock s inner), hcut, Option.map_some]
  simp only [List.dropLast_concat]

theorem trailingBlock_writeBlock (h : '(' ∉ inner) {s : List Char} (hs : trimEnd s = s) :
    trailingBlock (s ++ writeBlock inner) = some (s, inner) := by
  rw [trailingBlock_append_block (cutAtBlock_cons_of_not_mem (by simpa using h)), hs]

theorem trailingBlock_eq_none {t : List Char} (ht : trimEnd t = t) (h : t.getLast? ≠ some ')') :
    trailingBlock t = none := by
  rw [trailingBlock, ht, if_neg h]

end

namespace Parts

theorem splitBlock_writeBlock {inner : List Char} (h : '(' ∉ inner) (head : List Char) :
    splitBlock (head ++ writeBlock inner) = (head, writeBlock inner) := by
  rw [splitBlock, cutAtBlock_writeBlock h]
  exact if_pos (getLast?_writeBlock head inner)

theorem splitBlock_of_getLast? {cell : List Char} (h : cell.getLast? ≠ some ')') :
    splitBlock cell = (cell, []) := by
  unfold splitBlock
  split
  · rw [if_neg h]
  · rfl

variable {before : List (List Char)} {last : List Char} {expected : Nat}

theorem comma_mem_joinParts {parts : List (List Char)} (h : 1 < parts.length) :
    ',' ∈ joinParts parts := by
  match parts with
  | [] => nomatch h
  | [_] => exact absurd h (Nat.lt_irrefl 1)
  | part :: next :: rest =>
    rw [joinParts, List.intercalate_cons_cons]
    simp

/-- The parts are read off what stands before the block of a cell. -/
theorem ofCell_of_splitBlock {block : List Char}
    (hsplit : splitBlock (joinParts (before ++ [last]) ++ block) =
      (joinParts (before ++ [last]), block))
    (htrim : trim (joinParts (before ++ [last]) ++ block) = joinParts (before ++ [last]) ++ block)
    (hsize : before = [] ∨ before.length + 1 = expected)
    (hparts : ∀ part ∈ before ++ [last], IsPart part) :
    ofCell (joinParts (before ++ [last]) ++ block) expected = .ok ⟨before, last ++ block⟩ := by
  rw [ofCell, htrim, hsplit]
  dsimp only
  rw [map_trim_pieces_joinParts (by simp) hparts]
  by_cases hnil : before = []
  · subst hnil
    have hcomma := (hparts last (by simp)).comma
    simp [joinParts, hcomma]
  · have hcomma : ',' ∈ joinParts (before ++ [last]) := by
      have hpos := List.length_pos_iff.2 hnil
      exact comma_mem_joinParts (by rw [List.length_append, List.length_singleton]; omega)
    have hlength : (before ++ [last]).length = expected := by
      simpa using hsize.resolve_left hnil
    rw [if_pos (List.contains_iff_mem.2 hcomma), if_pos hlength, List.dropLast_concat,
      List.getLastD_concat]

theorem ofCell_plain (hsize : before = [] ∨ before.length + 1 = expected)
    (hparts : ∀ part ∈ before ++ [last], IsPart part) (hend : last.getLast? ≠ some ')') :
    ofCell (joinParts (before ++ [last])) expected = .ok ⟨before, last⟩ := by
  have hlast : (joinParts (before ++ [last])).getLast? = last.getLast? := by
    rw [joinParts, ← List.nil_append last, ← Text.intercalate_concat_append, List.getLast?_append,
      List.nil_append, List.getLast?_eq_some_getLast (hparts last (by simp)).ne_nil, Option.some_or]
  have hsplit : splitBlock (joinParts (before ++ [last]) ++ []) =
      (joinParts (before ++ [last]), []) := by
    rw [List.append_nil]
    exact splitBlock_of_getLast? (hlast ▸ hend)
  have htrim : trim (joinParts (before ++ [last]) ++ []) = joinParts (before ++ [last]) ++ [] := by
    rw [List.append_nil, trim_joinParts hparts]
  simpa using ofCell_of_splitBlock hsplit htrim hsize hparts

theorem ofCell_block (hsize : before = [] ∨ before.length + 1 = expected)
    (hparts : ∀ part ∈ before ++ [last], IsPart part) {inner : List Char} (hinner : '(' ∉ inner) :
    ofCell (joinParts (before ++ [last]) ++ writeBlock inner) expected =
      .ok ⟨before, last ++ writeBlock inner⟩ :=
  ofCell_of_splitBlock (splitBlock_writeBlock hinner _)
    (trim_writeBlock (joinParts_ne_nil (by simp) hparts) (trim_joinParts hparts) inner) hsize hparts

end Parts

/-- Whether a character may stand in a name. -/
def isNameChar (c : Char) : Bool := !isBlank c && !([',', '~', '(', ')'].contains c)

/-- A text that may stand for a name. -/
structure IsName (t : List Char) : Prop where
  ne_nil : t ≠ []
  plain : t.all isNameChar

instance (t : List Char) : Decidable (IsName t) :=
  decidable_of_iff (t ≠ [] ∧ t.all isNameChar) ⟨fun ⟨hne, hplain⟩ => ⟨hne, hplain⟩,
    fun h => ⟨h.ne_nil, h.plain⟩⟩

namespace IsName

variable {t : List Char} {c : Char}

theorem not_blank (h : IsName t) (hc : c ∈ t) : isBlank c = false := by
  have hchar := List.all_eq_true.1 h.plain c hc
  rw [isNameChar, Bool.and_eq_true, Bool.not_eq_true'] at hchar
  exact hchar.1

theorem not_mem (h : IsName t) (hc : c ∈ [',', '~', '(', ')']) : c ∉ t := fun hmem => by
  have hchar := List.all_eq_true.1 h.plain c hmem
  rw [isNameChar, List.contains_iff_mem.2 hc, Bool.not_true, Bool.and_false] at hchar
  exact Bool.false_ne_true hchar

theorem isEntry (h : IsName t) : IsEntry t where
  ne_nil := h.ne_nil
  trim_eq := Text.trim_eq_self_iff.2 ⟨fun _ hc => h.not_blank (List.mem_of_head? hc),
    fun _ hc => h.not_blank (List.mem_of_getLast? hc)⟩
  comma := h.not_mem (by decide)
  tilde := h.not_mem (by decide)

theorem isPart (h : IsName t) : IsPart t := ⟨h.ne_nil, h.isEntry.trim_eq, h.isEntry.comma⟩

end IsName

/-- Names with commas between them, and a gap after each comma. -/
def joinNames (gap : List Char) (ns : List (List Char)) : List Char := (',' :: gap).intercalate ns

theorem names_joinNames {gap : List Char} {ns : List (List Char)} (hgap : isBlankText gap)
    (hne : ns ≠ []) (h : ∀ name ∈ ns, IsName name) : names (joinNames gap ns) = ns := by
  have hpieces : (pieces ',' (joinNames gap ns)).map trim = ns :=
    Text.map_trim_pieces_intercalate [] gap (by decide) (by decide) hgap hne
      fun name hname => ⟨(h name hname).isEntry.trim_eq, (h name hname).isEntry.comma⟩
  rw [names, hpieces, List.filter_eq_self]
  intro name hname
  simpa using (h name hname).ne_nil

theorem paren_not_mem_joinNames {gap : List Char} {ns : List (List Char)} (hgap : isBlankText gap)
    (h : ∀ name ∈ ns, IsName name) : '(' ∉ joinNames gap ns := by
  refine Text.not_mem_intercalate ?_ fun name hname => (h name hname).not_mem (by decide)
  rw [List.mem_cons, not_or]
  exact ⟨by decide, Text.not_mem_of_blank (by decide) hgap⟩

theorem takeTags_eq_ok {cell last rest : List Char} {before : List (List Char)} {expected : Nat}
    {take : List Char → Except CellError (List Char × SortedSet String)} {tags : SortedSet String}
    (hparts : Parts.ofCell cell expected = .ok ⟨before, rest⟩)
    (htake : take rest = .ok (last, tags)) :
    takeTags cell expected take = .ok (before ++ [last], tags) :=
  bind_eq_ok_iff.2 ⟨_, hparts, bind_eq_ok_iff.2 ⟨_, htake, rfl⟩⟩

/-! ## Whole cells -/

/-- The parts of a cell with `n` variants, one at least with a spelling for each of them. -/
structure IsWritable {n : Nat} (parts : List (Alternatives (List Char) n)) : Prop where
  pos : 0 < n
  exists_full : ∃ p ∈ parts, p.toList.length = n
  isEntry : ∀ p ∈ parts, ∀ t ∈ p.toList, IsEntry t

/-- The parts of a cell as they are written. -/
def writeParts {n : Nat} (parts : List (Alternatives (List Char) n)) : List (List Char) :=
  parts.map fun p => writePart p.toList

namespace IsWritable

variable {n : Nat} {parts : List (Alternatives (List Char) n)}

theorem toList_ne_nil (h : IsWritable parts) (p : Alternatives (List Char) n) : p.toList ≠ [] := by
  intro hnil
  have hpos := h.pos
  have hlength := p.length_eq
  rw [hnil, List.length_nil] at hlength
  omega

theorem isPart (h : IsWritable parts) : ∀ part ∈ writeParts parts, IsPart part := by
  intro part hpart
  obtain ⟨p, hp, rfl⟩ := List.mem_map.1 hpart
  exact isPart_writePart (h.toList_ne_nil p) (h.isEntry p hp)

theorem writeParts_ne_nil (h : IsWritable parts) : writeParts parts ≠ [] := by
  obtain ⟨p, hp, -⟩ := h.exists_full
  exact List.ne_nil_of_mem (List.mem_map_of_mem hp)

/-- The last part of a cell stands apart, since something may be written behind it. -/
theorem exists_eq_concat (h : IsWritable parts) {expected : Nat}
    (hsize : parts.length = 1 ∨ parts.length = expected) :
    ∃ before last, writeParts parts = before ++ [last] ∧
      (before = [] ∨ before.length + 1 = expected) ∧ ∀ part ∈ before ++ [last], IsPart part := by
  obtain ⟨before, last, hwritten⟩ :=
    (List.eq_nil_or_concat (writeParts parts)).resolve_left h.writeParts_ne_nil
  rw [List.concat_eq_append] at hwritten
  have hlength := congrArg List.length hwritten
  rw [writeParts, List.length_map, List.length_append, List.length_singleton] at hlength
  refine ⟨before, last, hwritten, ?_, hwritten ▸ h.isPart⟩
  rwa [hlength, Nat.add_eq_right, List.length_eq_zero_iff] at hsize

theorem maxAlternatives_eq (h : IsWritable parts) : maxAlternatives (writeParts parts) = n := by
  have hcount (p) (hp : p ∈ parts) : alternativeCount (writePart p.toList) = p.toList.length :=
    alternativeCount_writePart (h.toList_ne_nil p) fun t ht => (h.isEntry p hp t ht).isAlternative
  obtain ⟨p, hp, hfull⟩ := h.exists_full
  have hle : alternativeCount (writePart p.toList) ≤ maxAlternatives (writeParts parts) :=
    alternativeCount_le (List.mem_map_of_mem hp)
  rw [hcount p hp] at hle
  obtain ⟨part, hpart, hmax⟩ := exists_count_eq_max h.writeParts_ne_nil
  obtain ⟨q, hq, rfl⟩ := List.mem_map.1 hpart
  rw [hcount q hq] at hmax
  have hpos := h.pos
  have hlength := q.length_eq
  omega

/-- The variant at each index is made of the spellings that are written for it. -/
theorem madeOf (h : IsWritable parts) {makes : List (List Char) → Draft → Prop}
    {draft : Fin n → Draft} (hmakes : ∀ k, makes (parts.map (·.get k)) (draft k))
    (hshort : ∀ k, (draft k).IsShort) : MadeOf makes (writeParts parts) (List.ofFn draft) := by
  refine ⟨by rw [List.length_ofFn, h.maxAlternatives_eq], fun k d hd => ?_⟩
  obtain ⟨hk, rfl⟩ := List.getElem?_eq_some_iff.1 hd
  rw [List.length_ofFn] at hk
  rw [List.getElem_ofFn]
  refine ⟨parts.map (·.get ⟨k, hk⟩), ?_, hmakes _, hshort _⟩
  rw [writeParts, List.forall₂_map_left_iff, List.forall₂_map_right_iff, List.forall₂_same]
  intro p hp
  exact alternative_writePart (fun t ht => (h.isEntry p hp t ht).isAlternative)
    (p.shared?_toList ⟨k, hk⟩)

end IsWritable

end Cell

/-- Whatever its name, the orthography and the ledger, a creator creates such variants of a row. -/
def Creator.Creates (c : Creator) (row : Row) (P : List Variant → Prop) : Prop :=
  ∀ label orthographyId ledger, ∃ creation vs after,
    c.create label orthographyId row = .ok creation ∧ creation ledger = (.ok vs, after) ∧ P vs

theorem Creator.Creates.imp {c : Creator} {row : Row} {P Q : List Variant → Prop}
    (h : c.Creates row P) (hPQ : ∀ vs, P vs → Q vs) : c.Creates row Q := by
  intro label orthographyId ledger
  obtain ⟨creation, vs, after, hcreation, hrun, hP⟩ := h label orthographyId ledger
  exact ⟨creation, vs, after, hcreation, hrun, hPQ vs hP⟩

/-- The variants of a written cell, if its grammar reads what is written. -/
theorem Creator.creates_written {c : Creator} {slots : c.grammar.Slots}
    (hslots : c.slots = some slots) {n : Nat} {parts : List (Alternatives (List Char) n)}
    (hparts : Cell.IsWritable parts) (mark : List Char) {tags : SortedSet String}
    (hread : c.grammar.takeApart (Cell.joinParts (Cell.writeParts parts) ++ mark) =
      .ok (Cell.writeParts parts, tags)) {row : Row}
    (hrow : row.cell c.column = String.ofList (Cell.joinParts (Cell.writeParts parts) ++ mark))
    (draft : Fin n → Draft)
    (hmakes : ∀ k, c.grammar.Makes slots tags (parts.map (·.get k)) (draft k))
    (hshort : ∀ k, (draft k).IsShort) :
    c.Creates row fun vs => vs.length = n ∧ ∀ k : Fin n, ∃ v, vs[(k : Nat)]? = some v ∧
      v.forms = (draft k).forms.map (fun form => { form with variantId := some v.id }) ∧
      v.properties = (draft k).properties := by
  intro label orthographyId ledger
  have hfilled := Cell.isBlankText_joinParts_append hparts.writeParts_ne_nil hparts.isPart mark
  have hcell : c.cell row = Cell.joinParts (Cell.writeParts parts) ++ mark := by
    rw [cell, hrow, String.toList_ofList]
  rw [← hcell] at hread hfilled
  have hmade : c.grammar.MakesAll slots (c.cell row) (List.ofFn draft) :=
    ⟨_, tags, hread, hparts.madeOf hmakes hshort⟩
  have hcreate := c.grammar.create_determined slots c.tag hfilled
  obtain ⟨after, hrun⟩ : ∃ after, c.grammar.create slots c.tag (c.context label orthographyId row)
      (c.cell row) ledger = (.ok _, after) :=
    hcreate.apply_eq_ok_iff.2 ⟨_, hmade, rfl⟩
  refine ⟨_, _, after, by rw [create, createText, hslots], hrun, by simp, fun k => ?_⟩
  refine ⟨(draft k).variant k orthographyId (ledger.nextId - Int64.ofNat k), ?_, rfl, rfl⟩
  simp [Draft.lexeme, context]

end Wordbook
