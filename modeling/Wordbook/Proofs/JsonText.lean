import Wordbook.Proofs.JsonScalar

/-!
# JSON that is read back

A value is read as the same value again, in whatever lines it is written, if it
holds no fractions and no numbers of more than 64 bits, and is not too deep.

* `Json.Plain`: the values that are written and read without loss;
* `Json.Spacing`, `Writer.spaced`: how texts of the same value differ;
* `Reader.ReadsBack`: a value is read from its texts, whatever ends them;
* `Reader.elements?_spacedAll`, `Reader.members?_spacedMembers`: what stands
  between brackets, element by element and member by member;
* `Json.Plain.read?_spaced`, `Json.Plain.heldBy_pretty`: the whole text of a
  value.
-/

namespace Wordbook.Json

/-- The gaps that are left in the text of a value. -/
structure Spacing where
  /-- The gap before an element or a key, by the number of brackets that are open. -/
  gap : Nat → List Char
  isSpace_gap (level : Nat) : ∀ c ∈ gap level, Reader.isSpace c
  /-- The gap behind a colon. -/
  colonGap : List Char
  isSpace_colonGap : ∀ c ∈ colonGap, Reader.isSpace c

namespace Writer

mutual

/-- The text of a value with these gaps. -/
def spaced (s : Spacing) (level : Nat) : Json → List Char
  | array [] => ['[', ']']
  | array (v :: vs) =>
    '[' :: s.gap (level + 1) ++ spaced s (level + 1) v ++ spacedAll s (level + 1) vs ++
      s.gap level ++ [']']
  | object [] => ['\x7b', '\x7d']
  | object ((k, v) :: ms) =>
    '\x7b' :: s.gap (level + 1) ++ text k ++ ':' :: s.colonGap ++ spaced s (level + 1) v ++
      spacedMembers s (level + 1) ms ++ s.gap level ++ ['\x7d']
  | v => scalar v

/-- The elements behind the first one. -/
def spacedAll (s : Spacing) (level : Nat) : List Json → List Char
  | [] => []
  | v :: vs => ',' :: s.gap level ++ spaced s level v ++ spacedAll s level vs

/-- The members behind the first one. -/
def spacedMembers (s : Spacing) (level : Nat) : List (String × Json) → List Char
  | [] => []
  | (k, v) :: ms =>
    ',' :: s.gap level ++ text k ++ ':' :: s.colonGap ++ spaced s level v ++
      spacedMembers s level ms

end

end Writer

namespace Spacing

/-- A line for each element and member. -/
def lines : Spacing where
  gap := Writer.newline
  isSpace_gap level c hc := by
    rcases List.mem_cons.1 hc with rfl | hc
    · rfl
    · rw [List.eq_of_mem_replicate hc]
      rfl
  colonGap := [' ']
  isSpace_colonGap := by simp [Reader.isSpace]

/-- No gaps at all. -/
def dense : Spacing where
  gap _ := []
  isSpace_gap _ := nofun
  colonGap := []
  isSpace_colonGap := nofun

end Spacing

namespace Writer

mutual

theorem pretty_eq_spaced (level : Nat) : (v : Json) → pretty level v = spaced .lines level v
  | array [] | object [] => rfl
  | array (v :: vs) => by
    rw [pretty, spaced, pretty_eq_spaced, prettyAll_eq_spacedAll]
    rfl
  | object ((k, v) :: ms) => by
    rw [pretty, spaced, pretty_eq_spaced, prettyMembers_eq_spacedMembers]
    simp [Spacing.lines]
  | null | bool _ | .number _ | string _ | unreadable => rfl

theorem prettyAll_eq_spacedAll (level : Nat) :
    (vs : List Json) → prettyAll level vs = spacedAll .lines level vs
  | [] => rfl
  | v :: vs => by
    rw [prettyAll, spacedAll, pretty_eq_spaced, prettyAll_eq_spacedAll]
    rfl

theorem prettyMembers_eq_spacedMembers (level : Nat) :
    (ms : List (String × Json)) → prettyMembers level ms = spacedMembers .lines level ms
  | [] => rfl
  | (k, v) :: ms => by
    rw [prettyMembers, spacedMembers, pretty_eq_spaced, prettyMembers_eq_spacedMembers]
    simp [Spacing.lines]

end

mutual

theorem compact_eq_spaced (level : Nat) : (v : Json) → compact v = spaced .dense level v
  | array [] | object [] => rfl
  | array (v :: vs) => by
    rw [compact, spaced, compactAll_eq_spacedAll (level + 1) (v :: vs)]
    simp [spacedAll, Spacing.dense]
  | object (m :: ms) => by
    rw [compact, spaced, compactMembers_eq_spacedMembers (level + 1) (m :: ms)]
    simp [spacedMembers, Spacing.dense]
  | null | bool _ | .number _ | string _ | unreadable => rfl

/-- No comma stands before the first element. -/
theorem compactAll_eq_spacedAll (level : Nat) :
    (vs : List Json) → compactAll vs = (spacedAll .dense level vs).tail
  | [] => rfl
  | [v] => by
    rw [compactAll, compact_eq_spaced level v]
    simp [spacedAll, Spacing.dense]
  | v :: w :: vs => by
    rw [compactAll, compact_eq_spaced level v, compactAll_eq_spacedAll level (w :: vs)]
    · simp [spacedAll, Spacing.dense]
    · nofun

theorem compactMembers_eq_spacedMembers (level : Nat) :
    (ms : List (String × Json)) → compactMembers ms = (spacedMembers .dense level ms).tail
  | [] => rfl
  | [(k, v)] => by
    rw [compactMembers, compact_eq_spaced level v]
    simp [spacedMembers, Spacing.dense]
  | (k, v) :: m :: ms => by
    rw [compactMembers, compact_eq_spaced level v, compactMembers_eq_spacedMembers level (m :: ms)]
    · simp [spacedMembers, Spacing.dense]
    · nofun

end

end Writer

namespace Reader

theorem skipSpace_cons {c : Char} (h : isSpace c = false) (t : List Char) :
    skipSpace (c :: t) = c :: t := by
  rw [skipSpace, List.dropWhile_cons, h]
  rfl

theorem skipSpace_gap (s : Spacing) (level : Nat) (t : List Char) :
    skipSpace (s.gap level ++ t) = skipSpace t :=
  List.dropWhile_append_of_pos (s.isSpace_gap level)

theorem ends_gap (s : Spacing) (level : Nat) {t : List Char} (ht : Ends t) :
    Ends (s.gap level ++ t) := by
  have hgap := s.isSpace_gap level
  generalize s.gap level = g at hgap ⊢
  cases g with
  | nil => exact ht
  | cons c g =>
    have hc := hgap c List.mem_cons_self
    simp only [isSpace, Bool.or_eq_true, beq_iff_eq] at hc
    refine ends_cons ?_
    rcases hc with ((rfl | rfl) | rfl) | rfl <;> decide

end Reader

/-! ## Values -/

/-- A value, at most so many levels deep, without fractions and without numbers of more than 64
bits. -/
inductive Plain : Nat → Json → Prop where
  | null {n} : Plain n null
  | bool {n} (b : Bool) : Plain n (bool b)
  | whole {n k} : Reader.IsWord k → Plain n (whole k)
  | string {n} (s : String) : Plain n (string s)
  | array {n vs} : (∀ v ∈ vs, Plain n v) → Plain (n + 1) (array vs)
  | object {n ms} : (∀ m ∈ ms, Plain n m.2) → Plain (n + 1) (object ms)

theorem size_pos (v : Json) : 0 < v.size := by
  cases v <;> simp [size]

namespace Reader

open Writer (scalar escape spaced spacedAll spacedMembers)

/-- A value is read from the text that it is written as, with something behind it that ends it. -/
structure ReadsBack (v : Json) : Prop where
  /-- It is told from a gap and from the end of an array. -/
  begins (s : Spacing) (level : Nat) :
    ∃ c t, spaced s level v = c :: t ∧ isSpace c = false ∧ c ≠ ']'
  value?_eq (s : Spacing) (level : Nat) {fuel : Nat} {t rest : List Char} : Ends rest →
    2 * v.size ≤ fuel + 1 → skipSpace t = spaced s level v ++ rest →
    value? (fuel + 1) t = some (v, rest)

/-- The gaps before a value are passed over. -/
theorem ReadsBack.skipSpace_eq {v : Json} (h : ReadsBack v) (s : Spacing) (level : Nat)
    {g : List Char} (hg : ∀ c ∈ g, isSpace c) (t : List Char) :
    skipSpace (g ++ (spaced s level v ++ t)) = spaced s level v ++ t := by
  obtain ⟨c, t', ht', hc, -⟩ := h.begins s level
  rw [skipSpace, List.dropWhile_append_of_pos hg, ht', List.cons_append]
  exact skipSpace_cons hc _

theorem value?_scalar {fuel : Nat} {c : Char} {t t' : List Char} (ht : skipSpace t = c :: t')
    (hbracket : c ≠ '[') (hbrace : c ≠ '\x7b') : value? (fuel + 1) t = scalar? (c :: t') := by
  rw [value?, ht]
  split
  · rename_i h
    exact absurd (List.cons.inj h).1 hbracket
  · rename_i h
    exact absurd (List.cons.inj h).1 hbrace
  · rfl

theorem scalar?_number {c : Char} (hc : BeginsNumber c) (t : List Char) :
    scalar? (c :: t) =
      (literal? (c :: t)).map fun (l, t) => (orUnreadable .number l.value?, t) := by
  unfold scalar?
  split
  case h_5 => rfl
  all_goals
    rename_i h
    rw [(List.cons.inj h).1] at hc
    exact absurd hc (by decide)

theorem readsBack_null : ReadsBack null where
  begins _ _ := ⟨'n', _, rfl, rfl, by decide⟩
  value?_eq _ _ _ _ _ _ _ ht := by
    rw [value?_scalar ht (by decide) (by decide)]
    rfl

theorem readsBack_bool (b : Bool) : ReadsBack (bool b) where
  begins _ _ := by cases b <;> exact ⟨_, _, rfl, rfl, by decide⟩
  value?_eq _ _ _ _ _ _ _ ht := by
    cases b with
    | true =>
      rw [value?_scalar ht (by decide) (by decide)]
      rfl
    | false =>
      rw [value?_scalar ht (by decide) (by decide)]
      rfl

theorem readsBack_whole {k : Int} (hk : IsWord k) : ReadsBack (whole k) := by
  obtain ⟨c, t', hnumber, hc⟩ := exists_number_eq_cons k
  have hne {d : Char} (hd : ¬BeginsNumber d) : c ≠ d := fun h => hd (h ▸ hc)
  refine ⟨fun _ _ => ⟨c, t', hnumber, ?_, hne (by decide)⟩, fun _ _ _ t rest hrest _ ht => ?_⟩
  · simp [isSpace, hne (d := ' ') (by decide), hne (d := '\n') (by decide),
      hne (d := '\t') (by decide), hne (d := '\r') (by decide)]
  · obtain ⟨l, hliteral, hvalue⟩ := literal?_number hk hrest
    change skipSpace t = Writer.number (.whole k) ++ rest at ht
    rw [hnumber] at ht hliteral
    rw [value?_scalar ht (hne (by decide)) (hne (by decide)), scalar?_number hc,
      show literal? (c :: t'.append rest) = some (l, rest) from hliteral]
    simp [hvalue, orUnreadable, whole]

theorem readsBack_string (s : String) : ReadsBack (string s) where
  begins _ _ := ⟨'"', _, rfl, rfl, by decide⟩
  value?_eq _ _ _ t rest _ _ ht := by
    change skipSpace t = ('"' :: s.toList.flatMap escape ++ ['"']) ++ rest at ht
    rw [List.cons_append, List.cons_append, List.append_assoc, List.singleton_append] at ht
    rw [value?_scalar ht (by decide) (by decide)]
    show (text? _).map _ = _
    rw [text?_flatMap_escape]
    rfl

section

variable {fuel : Nat} {done : List Json} {v : Json} {t t' t'' : List Char} {c : Char}

theorem value?_array (ht : skipSpace t = '[' :: t') (ht' : skipSpace t' = c :: t'') (hc : c ≠ ']') :
    value? (fuel + 1) t = elements? fuel [] t' := by
  rw [value?, ht]
  simp only [ht']
  split
  · rename_i h
    exact absurd (List.cons.inj h).1 hc
  · rfl

theorem elements?_next (hv : value? fuel t = some (v, t')) (ht' : skipSpace t' = ',' :: t'') :
    elements? (fuel + 1) done t = elements? fuel (v :: done) t'' := by
  rw [elements?, hv]
  simp [ht']

theorem elements?_last (hv : value? fuel t = some (v, t')) (ht' : skipSpace t' = ']' :: t'') :
    elements? (fuel + 1) done t = some (.array (v :: done).reverse, t'') := by
  rw [elements?, hv]
  simp [ht']

end

/-- The elements of an array, behind some that have been read. -/
theorem elements?_spacedAll (s : Spacing) {level outer fuel : Nat} {done : List Json} {v : Json}
    {vs : List Json} {t rest : List Char} (hreads : ∀ w ∈ v :: vs, ReadsBack w)
    (hfuel : 2 * sizeAll (v :: vs) ≤ fuel)
    (ht : skipSpace t = spaced s level v ++ (spacedAll s level vs ++
      (s.gap outer ++ ']' :: rest))) :
    elements? (fuel + 1) done t = some (.array (done.reverse ++ v :: vs), rest) := by
  induction vs generalizing v fuel done t with
  | nil =>
    have hsize := v.size_pos
    rw [sizeAll, sizeAll] at hfuel
    obtain ⟨fuel, rfl⟩ : ∃ k, fuel = k + 1 := ⟨fuel - 1, by omega⟩
    have hread : value? (fuel + 1) t = some (v, s.gap outer ++ ']' :: rest) :=
      (hreads v List.mem_cons_self).value?_eq s level (ends_gap s outer (ends_cons (by decide)))
        (by omega) ht
    have hclose := (skipSpace_gap s outer _).trans (skipSpace_cons (c := ']') rfl rest)
    rw [elements?_last hread hclose, List.reverse_cons]
  | cons w vs ih =>
    have hsize := v.size_pos
    rw [sizeAll] at hfuel
    obtain ⟨fuel, rfl⟩ : ∃ k, fuel = k + 1 := ⟨fuel - 1, by omega⟩
    obtain ⟨hv, hvs⟩ := List.forall_mem_cons.1 hreads
    have hread : value? (fuel + 1) t = some (v, ',' :: (s.gap level ++ (spaced s level w ++
        (spacedAll s level vs ++ (s.gap outer ++ ']' :: rest))))) := by
      refine hv.value?_eq s level (ends_cons (by decide)) (by omega) (ht.trans ?_)
      simp only [spacedAll, List.append_assoc, List.cons_append]
    have hnext := (hvs w List.mem_cons_self).skipSpace_eq s level (s.isSpace_gap level)
      (spacedAll s level vs ++ (s.gap outer ++ ']' :: rest))
    rw [elements?_next hread (skipSpace_cons (by decide) _), ih hvs (by omega) hnext,
      List.reverse_cons, List.append_assoc, List.singleton_append]

theorem readsBack_array {vs : List Json} (hvs : ∀ v ∈ vs, ReadsBack v) : ReadsBack (array vs) := by
  refine ⟨fun s level => ?_, fun s level fuel t rest hrest hfuel ht => ?_⟩
  · cases vs <;> exact ⟨'[', _, rfl, rfl, by decide⟩
  · cases vs with
    | nil =>
      rw [value?, ht]
      rfl
    | cons v vs =>
      have hsize := v.size_pos
      simp only [size, sizeAll] at hfuel
      obtain ⟨fuel, rfl⟩ : ∃ k, fuel = k + 1 := ⟨fuel - 1, by omega⟩
      have hv := hvs v List.mem_cons_self
      obtain ⟨c, t', hspaced, -, hc⟩ := hv.begins s (level + 1)
      have hfirst := hv.skipSpace_eq s (level + 1) (s.isSpace_gap (level + 1))
        (spacedAll s (level + 1) vs ++ (s.gap level ++ ']' :: rest))
      have hopen : skipSpace t = '[' :: (s.gap (level + 1) ++ (spaced s (level + 1) v ++
          (spacedAll s (level + 1) vs ++ (s.gap level ++ ']' :: rest)))) := by
        rw [ht]
        simp [spaced]
      rw [value?_array hopen (hfirst.trans (by rw [hspaced]; rfl)) hc,
        elements?_spacedAll s hvs (by rw [sizeAll]; omega) hfirst]
      rfl

section

variable {fuel : Nat} {done : List (String × Json)} {k : String} {v : Json} {c : Char}
  {t t' t'' : List Char}

theorem value?_object (ht : skipSpace t = '\x7b' :: t') (ht' : skipSpace t' = '"' :: t'') :
    value? (fuel + 1) t = members? fuel true [] t' := by
  rw [value?, ht]
  simp only [ht']
  rfl

theorem skipSpace_text (s : Spacing) (level : Nat) (k : String) (t : List Char) :
    skipSpace (s.gap level ++ (Writer.text k ++ t)) = Writer.text k ++ t := by
  rw [skipSpace_gap]
  exact skipSpace_cons (by decide) _

theorem key?_text (ht : skipSpace t = Writer.text k ++ ':' :: t') :
    key? t = some (some k, t') := by
  have hquote : skipSpace t = '"' :: (k.toList.flatMap escape ++ '"' :: ':' :: t') := by
    rw [ht, Writer.text]
    simp
  rw [key?, hquote]
  simp [text?_flatMap_escape, skipSpace_cons (c := ':') rfl]

theorem members?_next (hk : key? t = some (some k, t')) (hv : value? fuel t' = some (v, t''))
    {rest : List Char} (hrest : skipSpace t'' = ',' :: rest) :
    members? (fuel + 1) true done t = members? fuel true ((k, v) :: done) rest := by
  rw [members?, hk]
  simp [hv, hrest]

theorem members?_last (hk : key? t = some (some k, t')) (hv : value? fuel t' = some (v, t''))
    {rest : List Char} (hrest : skipSpace t'' = '\x7d' :: rest) :
    members? (fuel + 1) true done t = some (.object ((k, v) :: done).reverse, rest) := by
  rw [members?, hk]
  simp [hv, hrest, object]

end

/-- The members of an object, behind some that have been read. -/
theorem members?_spacedMembers (s : Spacing) {level outer fuel : Nat}
    {done ms : List (String × Json)} {k : String} {v : Json} {t rest : List Char}
    (hreads : ∀ m ∈ (k, v) :: ms, ReadsBack m.2)
    (hfuel : 2 * sizeMembers ((k, v) :: ms) ≤ fuel)
    (ht : skipSpace t = Writer.text k ++ ':' :: (s.colonGap ++ (spaced s level v ++
      (spacedMembers s level ms ++ (s.gap outer ++ '\x7d' :: rest))))) :
    members? (fuel + 1) true done t = some (.object (done.reverse ++ (k, v) :: ms), rest) := by
  induction ms generalizing k v fuel done t with
  | nil =>
    have hsize := v.size_pos
    rw [sizeMembers, sizeMembers] at hfuel
    obtain ⟨fuel, rfl⟩ : ∃ k, fuel = k + 1 := ⟨fuel - 1, by omega⟩
    have hv := hreads _ List.mem_cons_self
    have hread : value? (fuel + 1) (s.colonGap ++ (spaced s level v ++
        (s.gap outer ++ '\x7d' :: rest))) = some (v, s.gap outer ++ '\x7d' :: rest) :=
      hv.value?_eq s level (ends_gap s outer (ends_cons (by decide))) (by omega)
        (hv.skipSpace_eq s level s.isSpace_colonGap _)
    have hclose := (skipSpace_gap s outer _).trans (skipSpace_cons (c := '\x7d') rfl rest)
    rw [members?_last (key?_text ht) hread hclose, List.reverse_cons]
  | cons m ms ih =>
    obtain ⟨l, w⟩ := m
    have hsize := v.size_pos
    rw [sizeMembers] at hfuel
    obtain ⟨fuel, rfl⟩ : ∃ k, fuel = k + 1 := ⟨fuel - 1, by omega⟩
    obtain ⟨(hv : ReadsBack v), hms⟩ := List.forall_mem_cons.1 hreads
    have hread : value? (fuel + 1) (s.colonGap ++ (spaced s level v ++
        (spacedMembers s level ((l, w) :: ms) ++ (s.gap outer ++ '\x7d' :: rest)))) =
        some (v, ',' :: (s.gap level ++ (Writer.text l ++ ':' :: (s.colonGap ++
          (spaced s level w ++ (spacedMembers s level ms ++
            (s.gap outer ++ '\x7d' :: rest))))))) := by
      refine hv.value?_eq s level (ends_cons (by decide)) (by omega)
        ((hv.skipSpace_eq s level s.isSpace_colonGap _).trans ?_)
      simp only [spacedMembers, List.append_assoc, List.cons_append]
    rw [members?_next (key?_text ht) hread (skipSpace_cons (by decide) _), ih hms (by omega),
      List.reverse_cons, List.append_assoc, List.singleton_append]
    exact skipSpace_text s level l _

theorem readsBack_object {ms : List (String × Json)} (hms : ∀ m ∈ ms, ReadsBack m.2) :
    ReadsBack (.object ms) := by
  refine ⟨fun s level => ?_, fun s level fuel t rest hrest hfuel ht => ?_⟩
  · rcases ms with _ | ⟨⟨k, v⟩, ms⟩ <;> exact ⟨'\x7b', _, rfl, rfl, by decide⟩
  · rcases ms with _ | ⟨⟨k, v⟩, ms⟩
    · rw [value?, ht]
      rfl
    · have hsize := v.size_pos
      simp only [size, sizeMembers] at hfuel
      obtain ⟨fuel, rfl⟩ : ∃ k, fuel = k + 1 := ⟨fuel - 1, by omega⟩
      have hopen : skipSpace t = '\x7b' :: (s.gap (level + 1) ++ (Writer.text k ++ ':' ::
          (s.colonGap ++ (spaced s (level + 1) v ++ (spacedMembers s (level + 1) ms ++
            (s.gap level ++ '\x7d' :: rest)))))) := by
        rw [ht]
        simp [spaced]
      have hfirst := skipSpace_text s (level + 1) k (':' :: (s.colonGap ++
        (spaced s (level + 1) v ++ (spacedMembers s (level + 1) ms ++
          (s.gap level ++ '\x7d' :: rest)))))
      rw [value?_object hopen hfirst,
        members?_spacedMembers s hms (by rw [sizeMembers]; omega) hfirst]
      rfl

end Reader

open Writer (spaced spacedAll spacedMembers)

theorem allReadable_iff {vs : List Json} : allReadable vs ↔ ∀ v ∈ vs, v.isReadable := by
  induction vs with
  | nil => simp [allReadable]
  | cons v vs ih => rw [allReadable, Bool.and_eq_true, ih, List.forall_mem_cons]

theorem membersReadable_iff {ms : List (String × Json)} :
    membersReadable ms ↔ ∀ m ∈ ms, m.2.isReadable := by
  induction ms with
  | nil => simp [membersReadable]
  | cons m ms ih => rw [membersReadable, Bool.and_eq_true, ih, List.forall_mem_cons]

theorem depthAll_le_iff {n : Nat} {vs : List Json} : depthAll vs ≤ n ↔ ∀ v ∈ vs, v.depth ≤ n := by
  induction vs with
  | nil => simp [depthAll]
  | cons v vs ih => rw [depthAll, Nat.max_le, ih, List.forall_mem_cons]

theorem depthMembers_le_iff {n : Nat} {ms : List (String × Json)} :
    depthMembers ms ≤ n ↔ ∀ m ∈ ms, m.2.depth ≤ n := by
  induction ms with
  | nil => simp [depthMembers]
  | cons m ms ih => rw [depthMembers, Nat.max_le, ih, List.forall_mem_cons]

theorem sizeAll_le_length {s : Spacing} {vs : List Json}
    (h : ∀ v ∈ vs, ∀ level, v.size ≤ (spaced s level v).length) (level : Nat) :
    sizeAll vs ≤ (spacedAll s level vs).length := by
  induction vs with
  | nil => exact Nat.zero_le _
  | cons v vs ih =>
    obtain ⟨hv, hvs⟩ := List.forall_mem_cons.1 h
    have hv := hv level
    have hvs := ih hvs
    simp only [sizeAll, spacedAll, List.length_append, List.length_cons]
    omega

theorem sizeMembers_le_length {s : Spacing} {ms : List (String × Json)}
    (h : ∀ m ∈ ms, ∀ level, m.2.size ≤ (spaced s level m.2).length) (level : Nat) :
    sizeMembers ms ≤ (spacedMembers s level ms).length := by
  induction ms with
  | nil => exact Nat.zero_le _
  | cons m ms ih =>
    obtain ⟨hm, hms⟩ := List.forall_mem_cons.1 h
    have hm := hm level
    have hms := ih hms
    simp only [sizeMembers, spacedMembers, List.length_append, List.length_cons]
    omega

/-- A text that holds a value, in whatever order its keys stand. -/
def HeldBy (v : Json) (text : List Char) : Prop := readStrict? text = some v.normal

namespace Plain

open Reader

variable {n : Nat} {v : Json}

theorem readsBack (h : Plain n v) : ReadsBack v := by
  induction h with
  | null => exact readsBack_null
  | bool b => exact readsBack_bool b
  | whole hk => exact readsBack_whole hk
  | string s => exact readsBack_string s
  | array _ ih => exact readsBack_array ih
  | object _ ih => exact readsBack_object ih

/-- A value has no more parts than its text has characters. -/
theorem size_le_length (h : Plain n v) (s : Spacing) (level : Nat) :
    v.size ≤ (spaced s level v).length := by
  induction h generalizing level with
  | null => exact (by decide : 1 ≤ 4)
  | bool b => cases b <;> exact Nat.succ_le_succ (Nat.zero_le _)
  | whole hk =>
    obtain ⟨c, t, ht, -⟩ := (readsBack_whole hk).begins s level
    rw [ht]
    exact Nat.succ_le_succ (Nat.zero_le _)
  | string s => exact Nat.succ_le_succ (Nat.zero_le _)
  | @array _ vs _ ih =>
    have hall := sizeAll_le_length ih (level + 1)
    cases vs with
    | nil => exact (by decide : 1 ≤ 2)
    | cons v vs =>
      simp only [spacedAll, List.length_append, List.length_cons] at hall
      simp only [size, spaced, List.length_append, List.length_cons]
      omega
  | @object _ ms _ ih =>
    have hall := sizeMembers_le_length ih (level + 1)
    cases ms with
    | nil => exact (by decide : 1 ≤ 2)
    | cons m ms =>
      simp only [spacedMembers, List.length_append, List.length_cons] at hall
      simp only [size, spaced, List.length_append, List.length_cons]
      omega

theorem isReadable (h : Plain n v) : v.isReadable := by
  induction h with
  | null | bool | whole | string => rfl
  | array _ ih => exact allReadable_iff.2 ih
  | object _ ih => exact membersReadable_iff.2 ih

theorem depth_le (h : Plain n v) : v.depth ≤ n := by
  induction h with
  | null | bool | whole | string => exact Nat.zero_le _
  | array _ ih => exact Nat.succ_le_succ (depthAll_le_iff.2 ih)
  | object _ ih => exact Nat.succ_le_succ (depthMembers_le_iff.2 ih)

/-- A value is read from any text that it is written as. -/
theorem read?_spaced (h : Plain n v) (s : Spacing) : read? (spaced s 0 v) = some v := by
  obtain ⟨c, t, ht, hc, -⟩ := h.readsBack.begins s 0
  have hsize := h.size_le_length s 0
  have hread : Reader.value? (2 * (spaced s 0 v).length + 2) (spaced s 0 v) = some (v, []) :=
    h.readsBack.value?_eq s 0 ends_nil (by omega) (by rw [ht, List.append_nil, skipSpace_cons hc])
  rw [read?, hread]
  rfl

theorem heldBy_pretty (h : Plain n v) (hn : n ≤ maxDepth) : v.HeldBy v.pretty.toList := by
  have hdepth : v.depth ≤ maxDepth := Nat.le_trans h.depth_le hn
  rw [HeldBy, pretty, String.toList_ofList, readStrict?, Writer.pretty_eq_spaced,
    h.read?_spaced]
  simp [h.isReadable, hdepth]

end Plain

end Wordbook.Json
