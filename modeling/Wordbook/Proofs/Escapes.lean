import Mathlib.Algebra.Group.Nat.Even
import Mathlib.Data.List.DropRight
import Wordbook.Proofs.Parentheses
import Wordbook.Proofs.Sketch

/-!
# Escaped parentheses

Two readers look at the backslashes before a parenthesis. A part is warned about
if some parenthesis has an even number of them; a word loses one of them before
every parenthesis that has any. So a parenthesis with some backslashes, but an
even number of them, is bare to the one and escaped to the other.

* `Multi.hasBareParenthesis_iff_even`: the parentheses that a part is warned about;
* `Multi.keepsParenthesis_iff`: those before which a word loses nothing;
* `Multi.bare_iff_kept_or_cancelled`: where they differ, and what a part raises.
-/

namespace Wordbook

open Creation

namespace Multi

section

variable {c d : Char} {t u : List Char}

theorem getLast?_dropEscapes (c : Char) (t : List Char) :
    (dropEscapes c t).getLast? = t.getLast? := by
  fun_induction dropEscapes c t with
  | case1 => rfl
  | case2 d => rfl
  | case3 d e t h ih =>
    obtain ⟨-, rfl⟩ : d = '\\' ∧ e = c := by simpa using h
    rw [List.getLast?_cons, ih, List.getLast?_cons_cons, List.getLast?_cons]
  | case4 d e t h ih => rw [List.getLast?_cons, ih, ← List.getLast?_cons]

/-- No other character is moved to the front. -/
theorem head?_dropEscapes (h : d ≠ c) (hd : (dropEscapes c t).head? = some d) :
    t.head? = some d := by
  fun_induction dropEscapes c t with
  | case1 => exact hd
  | case2 e => exact hd
  | case3 e f t => exact absurd (Option.some.inj hd).symm h
  | case4 e f t => exact hd

/-- Two texts are read one after the other, unless a backslash is left open for the second one. -/
theorem dropEscapes_append (h : t.getLast? = some '\\' → u.head? ≠ some c) :
    dropEscapes c (t ++ u) = dropEscapes c t ++ dropEscapes c u := by
  fun_induction dropEscapes c t with
  | case1 => rfl
  | case2 d =>
    by_cases hd : d = '\\'
    · subst hd
      exact dropEscapes_backslash fun e he hec => h rfl (hec ▸ he)
    · exact dropEscapes_cons_of_ne hd
  | case3 d e t hde ih =>
    obtain ⟨rfl, rfl⟩ : d = '\\' ∧ e = c := by simpa using hde
    rw [List.cons_append, List.cons_append, dropEscapes_escape, ih, List.cons_append]
    intro ht
    refine h ?_
    rw [List.getLast?_cons_cons, List.getLast?_cons, ht]
    rfl
  | case4 d e t hde ih =>
    rw [List.cons_append, List.cons_append, dropEscapes, if_neg hde, ← List.cons_append, ih h,
      List.cons_append]

theorem unescape_append (h : t.getLast? = some '\\' → ∀ d ∈ u.head?, d ∉ parentheses) :
    unescape (t ++ u) = unescape t ++ unescape u := by
  have hopen : t.getLast? = some '\\' → u.head? ≠ some '(' := fun ht hu =>
    h ht '(' hu (by decide)
  have hclose : (dropEscapes '(' t).getLast? = some '\\' →
      (dropEscapes '(' u).head? ≠ some ')' := by
    intro ht hu
    rw [getLast?_dropEscapes] at ht
    exact h ht ')' (head?_dropEscapes (by decide) hu) (by decide)
  rw [unescape, dropEscapes_append hopen, dropEscapes_append hclose]
  rfl

theorem unescape_escaped (hc : c ∈ parentheses) :
    unescape ('\\' :: c :: t) = c :: unescape t := by
  obtain rfl | rfl : c = '(' ∨ c = ')' := by simpa [parentheses] using hc
  · rw [unescape, dropEscapes_escape, dropEscapes_cons_of_ne (by decide)]
    rfl
  · rw [unescape, dropEscapes_backslash (by simp), dropEscapes_cons_of_ne (c := '(') (by decide),
      dropEscapes_escape]
    rfl

theorem unescape_cons_of_ne (hc : c ≠ '\\') : unescape (c :: t) = c :: unescape t := by
  rw [unescape, dropEscapes_cons_of_ne hc, dropEscapes_cons_of_ne hc]
  rfl

end

/-- A parenthesis before which nothing is taken away: what stands before it is read as if it stood
alone. -/
def KeepsParenthesis (before : List Char) (c : Char) (after : List Char) : Prop :=
  unescape (before ++ c :: after) = unescape before ++ c :: unescape after

/-- One backslash is taken away before a parenthesis, whatever stands before that one. -/
theorem unescape_parenthesis {c : Char} (hc : c ∈ parentheses) (before after : List Char) :
    unescape (before ++ '\\' :: c :: after) = unescape before ++ c :: unescape after := by
  rw [unescape_append fun _ d hd => by obtain rfl := Option.some.inj hd; decide,
    unescape_escaped hc]

theorem keepsParenthesis_iff {before after : List Char} {c : Char} (hc : c ∈ parentheses) :
    KeepsParenthesis before c after ↔ before.getLast? ≠ some '\\' := by
  have hne : c ≠ '\\' := by
    rintro rfl
    exact absurd hc (by decide)
  constructor
  · intro h hlast
    obtain ⟨front, rfl⟩ := List.getLast?_eq_some_iff.1 hlast
    have hfront : unescape (front ++ ['\\']) = unescape front ++ ['\\'] := by
      rw [unescape_append fun _ d hd => by obtain rfl := Option.some.inj hd; decide]
      rfl
    rw [KeepsParenthesis, List.append_assoc, List.singleton_append, unescape_parenthesis hc,
      hfront] at h
    simpa using congrArg List.length h
  · intro h
    rw [KeepsParenthesis, unescape_append fun hlast => absurd hlast h, unescape_cons_of_ne hne]

/-! ## What is warned about -/

/-- How many backslashes a text ends with. -/
def closingBackslashes (t : List Char) : Nat := (t.rtakeWhile (· == '\\')).length

theorem closingBackslashes_concat (t : List Char) (c : Char) :
    closingBackslashes (t ++ [c]) = if c = '\\' then closingBackslashes t + 1 else 0 := by
  simp only [closingBackslashes, List.rtakeWhile_concat, beq_iff_eq]
  split <;> simp

theorem closingBackslashes_eq_zero_iff {t : List Char} :
    closingBackslashes t = 0 ↔ t.getLast? ≠ some '\\' := by
  induction t using List.reverseRecOn with
  | nil => simp [closingBackslashes]
  | append_singleton t c _ =>
    rw [closingBackslashes_concat, List.getLast?_concat]
    split <;> simp_all

/-- Whether a backslash is open behind a text. -/
def isOpen (escaped : Bool) (t : List Char) : Bool :=
  t.foldl (fun escaped c => c == '\\' && !escaped) escaped

theorem isOpen_false_iff {t : List Char} :
    isOpen false t = false ↔ Even (closingBackslashes t) := by
  induction t using List.reverseRecOn with
  | nil => simp [isOpen, closingBackslashes]
  | append_singleton t c ih =>
    rw [closingBackslashes_concat, isOpen, List.foldl_concat]
    change ((c == '\\') && !isOpen false t) = false ↔ _
    split
    · rename_i hc
      rw [Nat.even_add_one, ← ih]
      simp [hc]
    · rename_i hc
      simp [hc]

theorem hasBareParenthesis_cons (escaped : Bool) (c : Char) (t : List Char) :
    hasBareParenthesis escaped (c :: t) ↔
      (c ∈ parentheses ∧ escaped = false) ∨ hasBareParenthesis (c == '\\' && !escaped) t := by
  by_cases hc : c = '\\'
  · subst hc
    rw [hasBareParenthesis_backslash]
    simp [parentheses]
  · cases escaped with
    | true => simp [hasBareParenthesis_escaped hc]
    | false =>
      have hbackslash : (c == '\\') = false := beq_eq_false_iff_ne.2 hc
      simp [hasBareParenthesis, parentheses, hc, hbackslash]

theorem hasBareParenthesis_iff {escaped : Bool} {t : List Char} :
    hasBareParenthesis escaped t ↔ ∃ before c after, t = before ++ c :: after ∧
      c ∈ parentheses ∧ isOpen escaped before = false := by
  induction t generalizing escaped with
  | nil => simp [hasBareParenthesis]
  | cons d t ih =>
    rw [hasBareParenthesis_cons, ih]
    constructor
    · rintro (⟨hd, he⟩ | ⟨before, c, after, rfl, hc, hopen⟩)
      · exact ⟨[], d, t, rfl, hd, he⟩
      · exact ⟨d :: before, c, after, rfl, hc, hopen⟩
    · rintro ⟨before, c, after, heq, hc, hopen⟩
      cases before with
      | nil =>
        obtain ⟨rfl, rfl⟩ := List.cons_eq_cons.1 heq
        exact .inl ⟨hc, hopen⟩
      | cons e before =>
        obtain ⟨rfl, rfl⟩ := List.cons_eq_cons.1 heq
        exact .inr ⟨before, c, after, rfl, hc, hopen⟩

/-- A part is warned about if some parenthesis has an even number of backslashes before it. -/
theorem hasBareParenthesis_iff_even {t : List Char} :
    hasBareParenthesis false t ↔ ∃ before c after, t = before ++ c :: after ∧ c ∈ parentheses ∧
      Even (closingBackslashes before) := by
  simp only [hasBareParenthesis_iff, isOpen_false_iff]

/-- Whether a text has a parenthesis before which nothing is taken away. -/
def HasKeptParenthesis (t : List Char) : Prop :=
  ∃ before c after, t = before ++ c :: after ∧ c ∈ parentheses ∧ KeepsParenthesis before c after

/-- Whether a text has a parenthesis with some backslashes, but an even number of them. All of them
cancel out, and yet one is taken away. -/
def HasCancelledEscape (t : List Char) : Prop :=
  ∃ before c after, t = before ++ c :: after ∧ c ∈ parentheses ∧
    Even (closingBackslashes before) ∧ closingBackslashes before ≠ 0

theorem hasBareParenthesis_iff_kept_or_cancelled {t : List Char} :
    hasBareParenthesis false t ↔ HasKeptParenthesis t ∨ HasCancelledEscape t := by
  rw [hasBareParenthesis_iff_even]
  constructor
  · rintro ⟨before, c, after, rfl, hc, heven⟩
    by_cases hzero : closingBackslashes before = 0
    · exact .inl ⟨before, c, after, rfl, hc,
        (keepsParenthesis_iff hc).2 (closingBackslashes_eq_zero_iff.1 hzero)⟩
    · exact .inr ⟨before, c, after, rfl, hc, heven, hzero⟩
  · rintro (⟨before, c, after, rfl, hc, hkept⟩ | ⟨before, c, after, rfl, hc, heven, -⟩)
    · refine ⟨before, c, after, rfl, hc, ?_⟩
      rw [closingBackslashes_eq_zero_iff.2 ((keepsParenthesis_iff hc).1 hkept)]
      exact Even.zero
    · exact ⟨before, c, after, rfl, hc, heven⟩

/-! ## What a part raises -/

theorem innerBlankMessage_ne (part tag : String) :
    innerBlankMessage part tag ≠ parenthesisMessage part := by
  intro h
  have hchars := congrArg String.toList h
  simp [innerBlankMessage, parenthesisMessage, toString] at hchars

theorem longFormMessage_ne (text : String) (slot : Slot) (length : Nat) (part : String) :
    longFormMessage text slot length ≠ parenthesisMessage part := by
  intro h
  have hchars := congrArg String.toList h
  simp [longFormMessage, parenthesisMessage, toString] at hchars

end Multi

namespace Creation

variable {α β : Type} {P : String → Prop} {ctx : Context}

/-- Whatever a creation comes to, it keeps the diagnostics there are, and what it adds to them are
warnings for which `P` holds. -/
def Raises (P : String → Prop) (ctx : Context) (c : Creation α) : Prop :=
  ∀ ledger, ∃ messages, (∀ m ∈ messages, P m) ∧
    (c ledger).2.diagnostics = (ledger.warn ctx messages).diagnostics

theorem Raises.bind {c : Creation α} {f : α → Creation β} (hc : c.Raises P ctx)
    (hf : ∀ a, (f a).Raises P ctx) : (c >>= f).Raises P ctx := by
  intro ledger
  obtain ⟨messages, hmessages, hledger⟩ := hc ledger
  rw [bind_apply]
  cases hrun : c ledger with
  | mk result after =>
    rw [hrun] at hledger
    cases result with
    | error e => exact ⟨messages, hmessages, hledger⟩
    | ok a =>
      obtain ⟨more, hmore, hafter⟩ := hf a after
      refine ⟨messages ++ more, List.forall_mem_append.2 ⟨hmessages, hmore⟩, hafter.trans ?_⟩
      rw [← Ledger.warn_warn]
      exact congrArg (· ++ _) hledger

theorem Raises.of_eq {c : Creation α}
    (h : ∀ ledger, (c ledger).2.diagnostics = ledger.diagnostics) : c.Raises P ctx :=
  fun ledger => ⟨[], nofun, by rw [h, Ledger.warn_nil]⟩

theorem raises_pure (a : α) : (pure a : Creation α).Raises P ctx := .of_eq fun _ => rfl

theorem raises_lift (r : Except CellError α) :
    (MonadLiftT.monadLift r : Creation α).Raises P ctx :=
  .of_eq fun _ => by cases r <;> rfl

theorem warn_bind_apply (message : String) (f : Unit → Creation β) (ledger : Ledger) :
    (warn ctx message >>= f) ledger = f () (ledger.warn ctx [message]) := rfl

theorem raises_warn {message : String} (h : P message) : (warn ctx message).Raises P ctx :=
  fun _ => ⟨[message], List.forall_mem_singleton.2 h, rfl⟩

theorem raises_makeForm {slot : Slot} {text : List Char} (state : FormState)
    (h : P (longFormMessage (String.ofList text) slot text.length)) :
    (makeForm ctx slot text state).Raises P ctx := by
  unfold makeForm
  by_cases hmax : text.length > maxFormLength
  · simp only [hmax, ↓reduceIte]
    exact .of_eq fun _ => rfl
  · simp only [hmax, ↓reduceIte]
    split
    · exact (raises_warn h).bind fun _ => raises_pure _
    · exact raises_pure _

theorem raises_makeVariant (index : Nat) (forms : List Form) (properties : Properties) :
    (makeVariant ctx index forms properties).Raises P ctx :=
  .of_eq fun _ => rfl

theorem Raises.ifWarn {c : Creation α} (hc : c.Raises P ctx) (suspicious : Bool) {message : String}
    (h : P message) :
    Raises P ctx (do
      if suspicious then warn ctx message
      c) := by
  cases suspicious with
  | false => simpa using hc
  | true => simpa using (raises_warn h).bind fun _ => hc

theorem Raises.mapM {f : α → Creation β} (h : ∀ a, (f a).Raises P ctx) (as : List α) :
    (as.mapM f).Raises P ctx := by
  induction as with
  | nil => exact raises_pure _
  | cons a as ih =>
    rw [List.mapM_cons]
    exact (h a).bind fun _ => ih.bind fun _ => raises_pure _

end Creation

namespace Multi

/-- The warning about the parentheses of a part. -/
def parenthesisWarning (ctx : Context) (part : List Char) : Diagnostic :=
  ⟨.warning, parenthesisMessage (String.ofList part), ctx.label, ctx.line, some ctx.column⟩

/-- Whatever a part comes to, its parentheses are warned about first. -/
theorem createPart_raises (ctx : Context) (base : Slot) (tag : String) (allowMultiWord : Bool)
    (part : List Char) (ledger : Ledger) :
    ∃ others, (∀ m ∈ others, m ≠ parenthesisMessage (String.ofList (Text.trim part))) ∧
      (createPart ctx base tag allowMultiWord part ledger).2.diagnostics =
        (ledger.warn ctx
          ((if hasBareParenthesis false (Text.trim part) then
            [parenthesisMessage (String.ofList (Text.trim part))]
          else []) ++ others)).diagnostics := by
  cases hpart : Text.isBlankText part with
  | true =>
    have hnone : createPart ctx base tag allowMultiWord part = return [] := if_pos hpart
    rw [hnone, Text.trim_eq_nil_iff.2 hpart]
    exact ⟨[], nofun, congrArg Ledger.diagnostics (ledger.warn_nil ctx).symm⟩
  | false =>
    let P (m : String) : Prop := m ≠ parenthesisMessage (String.ofList (Text.trim part))
    have hspellings : (spellings ctx base (Text.trim part) unescape).Raises P ctx :=
      .mapM (fun index => (raises_lift _).bind fun text =>
        (raises_makeForm .typed (longFormMessage_ne _ _ _ _)).bind fun form =>
        raises_makeVariant _ _ _) _
    have hothers := hspellings.ifWarn (!allowMultiWord && hasInnerBlank (Text.trim part))
      (innerBlankMessage_ne (String.ofList (Text.trim part)) tag)
    rw [createPart, hpart]
    cases hbare : hasBareParenthesis false (Text.trim part) with
    | false =>
      obtain ⟨others, hne, hledger⟩ := hothers ledger
      exact ⟨others, hne, by simpa [hbare] using hledger⟩
    | true =>
      obtain ⟨others, hne, hledger⟩ := hothers (ledger.warn ctx
        [parenthesisMessage (String.ofList (Text.trim part))])
      refine ⟨others, hne, ?_⟩
      simpa [hbare, warn_bind_apply, Ledger.warn_warn] using hledger

/-- A parenthesis is warned about if nothing is taken away before it, or if it has some backslashes
that cancel out. A part raises the one warning about parentheses exactly in these two cases. -/
theorem bare_iff_kept_or_cancelled (part : List Char) :
    (hasBareParenthesis false part ↔ HasKeptParenthesis part ∨ HasCancelledEscape part) ∧
    ∀ ctx base tag allowMultiWord ledger, ∃ raised,
      (createPart ctx base tag allowMultiWord part ledger).2.diagnostics =
        ledger.diagnostics ++ raised ∧
      raised.filter (·.message == parenthesisMessage (String.ofList (Text.trim part))) =
        if hasBareParenthesis false (Text.trim part) then
          [parenthesisWarning ctx (Text.trim part)] else [] := by
  refine ⟨hasBareParenthesis_iff_kept_or_cancelled,
    fun ctx base tag allowMultiWord ledger => ?_⟩
  obtain ⟨others, hothers, hledger⟩ := createPart_raises ctx base tag allowMultiWord part ledger
  refine ⟨_, hledger, ?_⟩
  have hnone : (others.map fun m => (⟨.warning, m, ctx.label, ctx.line, some ctx.column⟩ :
      Diagnostic)).filter (·.message == parenthesisMessage (String.ofList (Text.trim part))) =
      [] := by
    refine List.filter_eq_nil_iff.2 fun d hd => ?_
    obtain ⟨m, hm, rfl⟩ := List.mem_map.1 hd
    simpa using hothers m hm
  rw [List.map_append, List.filter_append, hnone, List.append_nil]
  split
  · simp [parenthesisWarning]
  · rfl

/-- Two backslashes before a parenthesis: the part is warned about, and one of them is taken away
before the only parenthesis there is. -/
theorem bare_not_kept :
    unescape "a\\\\(b".toList = "a\\(b".toList ∧ ¬HasKeptParenthesis "a\\\\(b".toList ∧
    hasBareParenthesis false "a\\\\(b".toList ∧
    ∀ ctx base tag allowMultiWord, parenthesisWarning ctx "a\\\\(b".toList ∈
      (createPart ctx base tag allowMultiWord "a\\\\(b".toList
        ⟨(-1 : Int64), []⟩).2.diagnostics := by
  have hcancelled : HasCancelledEscape "a\\\\(b".toList :=
    ⟨"a\\\\".toList, '(', ['b'], by decide, by decide, by decide, by decide⟩
  obtain ⟨hbare, hraises⟩ := bare_iff_kept_or_cancelled "a\\\\(b".toList
  have hwarned := hbare.2 (.inr hcancelled)
  refine ⟨by decide, ?_, hwarned, fun ctx base tag allowMultiWord => ?_⟩
  · rintro ⟨before, c, after, heq, hc, hkept⟩
    have hother : ∀ c ∈ parentheses, c ∉ "a\\\\".toList ∧ c ∉ ['b'] :=
      List.forall_mem_cons.2 ⟨by decide, List.forall_mem_singleton.2 (by decide)⟩
    have hsplit : "a\\\\".toList ++ '(' :: ['b'] = before ++ c :: after := heq
    obtain ⟨rfl, -, -⟩ :=
      (List.append_cons_inj_of_notMem (hother c hc).1 (hother c hc).2).1 hsplit
    exact (keepsParenthesis_iff hc).1 hkept (by decide)
  · obtain ⟨raised, hledger, hfilter⟩ := hraises ctx base tag allowMultiWord
      ⟨(-1 : Int64), []⟩
    have htrim : Text.trim "a\\\\(b".toList = "a\\\\(b".toList := by decide
    rw [htrim, if_pos hwarned] at hfilter
    rw [hledger]
    exact List.mem_of_mem_filter (hfilter ▸ List.mem_singleton_self _)

end Multi

end Wordbook
