import Wordbook.Proofs.Spelling

/-!
# Creations event by event

A creation remarks on what looks wrong, and makes forms one after another. The
first form that is too long ends it, and a form that is merely long leaves a
warning. What is created, were it not for lengths, tells all forms in advance;
the creation goes through them in their order.

* `Creation.Event`: a remark or a form, with the warning or the error it leaves;
* `Creation.Follows`: a creation goes through some events, and then gives a thing;
* `Creation.Follows.range`, `Creation.Follows.mapM`: several creations, one after
  another.
-/

namespace Wordbook

open Creation

namespace Form

/-- A form that leaves a warning, unless it is too long. -/
def isLong (f : Form) : Bool := longFormLength < f.text.length

/-- A form that cannot be made. -/
def isTooLong (f : Form) : Bool := maxFormLength < f.text.length

def lengthError (f : Form) : CellError := .formTooLong f.text f.text.length maxFormLength

/-- The warning about a long form tells its text, its slot, which is one of a list, and its
length. -/
def LongIn (slots : List Slot) (f : Form) (message : String) : Prop :=
  ∃ slot ∈ slots, slot.id = f.slotId ∧ message = longFormMessage f.text slot f.text.length

end Form

namespace Creation

/-- What happens in a creation and may leave a warning or an error. -/
inductive Event where
  | remark (message : String)
  | form (f : Form)

namespace Event

/-- The error of a form that is too long. -/
def error? : Event → Option CellError
  | remark _ => none
  | form f => if f.isTooLong then some f.lengthError else none

/-- Remarks and long forms leave a warning. -/
def isTold : Event → Bool
  | remark _ => true
  | form f => f.isLong

/-- An event leaves a warning with a message. -/
def Tells (slots : List Slot) : Event → String → Prop
  | remark m, message => message = m
  | form f, message => f.LongIn slots message

end Event

/-- The error of the first form that is too long. -/
def firstError? (events : List Event) : Option CellError := events.findSome? Event.error?

theorem firstError?_append (es fs : List Event) :
    firstError? (es ++ fs) = (firstError? es).or (firstError? fs) :=
  List.findSome?_append

theorem exists_of_forall₂_append {α β : Type} {R : α → β → Prop} {as bs : List α} {cs : List β}
    (h : List.Forall₂ R (as ++ bs) cs) :
    ∃ cs₁ cs₂, cs = cs₁ ++ cs₂ ∧ List.Forall₂ R as cs₁ ∧ List.Forall₂ R bs cs₂ := by
  induction as generalizing cs with
  | nil => exact ⟨[], cs, rfl, .nil, h⟩
  | cons a as ih =>
    rw [List.cons_append] at h
    obtain ⟨c, cs, hac, hcs, rfl⟩ := List.forall₂_cons_left_iff.1 h
    obtain ⟨cs₁, cs₂, rfl, h₁, h₂⟩ := ih hcs
    exact ⟨c :: cs₁, cs₂, rfl, .cons hac h₁, h₂⟩

/-- A list of messages is what some events tell, one after another. -/
def Tell (slots : List Slot) (events : List Event) (messages : List String) : Prop :=
  List.Forall₂ (Event.Tells slots) (events.filter Event.isTold) messages

section

variable {slots : List Slot} {es fs : List Event} {ms ns : List String}

theorem tell_nil : Tell slots [] [] := .nil

theorem Tell.append (hes : Tell slots es ms) (hfs : Tell slots fs ns) :
    Tell slots (es ++ fs) (ms ++ ns) := by
  rw [Tell, List.filter_append]
  exact List.rel_append hes hfs

theorem tell_append_iff : Tell slots (es ++ fs) ms ↔
    ∃ ms₁ ms₂, ms = ms₁ ++ ms₂ ∧ Tell slots es ms₁ ∧ Tell slots fs ms₂ := by
  constructor
  · intro h
    rw [Tell, List.filter_append] at h
    exact exists_of_forall₂_append h
  · rintro ⟨ms₁, ms₂, rfl, h₁, h₂⟩
    exact h₁.append h₂

theorem tell_remarks_iff {messages : List String} :
    Tell slots (messages.map .remark) ms ↔ ms = messages := by
  have hfilter : (messages.map Event.remark).filter Event.isTold = messages.map .remark := by
    simp [List.filter_eq_self, Event.isTold]
  rw [Tell, hfilter, List.forall₂_map_left_iff, ← List.forall₂_eq_eq_eq]
  exact ⟨fun h => (h.imp fun _ _ heq => heq.symm).flip.imp fun _ _ heq => heq.symm, fun h => h.flip⟩

end

/-! ## Creations that follow events -/

variable {α β γ : Type} {make : Int64 → Int64 → β → γ} {size : β → Nat} {slots : List Slot}

/-- In every context, a creation goes through some events. If none of them is an error, it gives
something in the end, and the events tell its warnings. -/
def Follows (make : Int64 → Int64 → β → γ) (size : β → Nat) (slots : List Slot)
    (events : List Event) (b : β) (c : Context → Creation γ) : Prop :=
  ∃ s : Sketch β, (∀ e, firstError? events = some e → s.outcome = .error e) ∧
    (firstError? events = none →
      s.outcome = .ok b ∧ s.drawn = size b ∧ Tell slots events s.warnings) ∧
    ∀ ctx, c ctx = s.run make ctx

/-- The creation of something that has no ids. -/
abbrev FollowsDraft (slots : List Slot) (events : List Event) (a : α) (c : Context → Creation α) :
    Prop :=
  Follows (fun _ _ a => a) (fun _ => 0) slots events a c

section

variable {es fs : List Event} {a : α} {b : β}

theorem Follows.pure {d : γ} (hsize : size b = 0)
    (h : ∀ orthographyId first, make orthographyId first b = d) :
    Follows make size slots [] b fun _ => (Pure.pure d : Creation γ) :=
  ⟨⟨[], 0, .ok b⟩, nofun, fun _ => ⟨rfl, hsize.symm, tell_nil⟩, fun _ => Sketch.run_pure h⟩

theorem FollowsDraft.lift {r : Except CellError α} (h : r = .ok a) :
    FollowsDraft slots [] a fun _ => (MonadLiftT.monadLift r : Creation α) :=
  ⟨⟨[], 0, r⟩, nofun, fun _ => ⟨h, rfl, tell_nil⟩, fun _ => Sketch.run_lift r⟩

theorem FollowsDraft.warn (message : String) :
    FollowsDraft slots [.remark message] () fun ctx => Creation.warn ctx message :=
  ⟨⟨[message], 0, .ok ()⟩, nofun, fun _ => ⟨rfl, rfl, .cons rfl .nil⟩, fun _ => rfl⟩

theorem Follows.bind {c : Context → Creation α} {f : Context → α → Creation γ}
    (hc : FollowsDraft slots es a c) (hf : Follows make size slots fs b fun ctx => f ctx a) :
    Follows make size slots (es ++ fs) b fun ctx => c ctx >>= f ctx := by
  obtain ⟨⟨messages, drawn, outcome⟩, herror, hok, hc⟩ := hc
  simp only [hc]
  rw [Follows, firstError?_append]
  cases hes : firstError? es with
  | some e =>
    obtain rfl : outcome = .error e := herror e hes
    refine ⟨⟨messages, drawn, .error e⟩, ?_, nofun, fun ctx => ?_⟩
    · rintro _ ⟨⟩
      rfl
    · exact Sketch.run_error_bind messages drawn e (f ctx)
  | none =>
    obtain ⟨rfl, rfl, htell⟩ : outcome = .ok a ∧ drawn = 0 ∧ _ := hok hes
    obtain ⟨s, herror, hok, hf⟩ := hf
    refine ⟨⟨messages ++ s.warnings, s.drawn, s.outcome⟩, herror, fun hfs => ?_, fun ctx => ?_⟩
    · obtain ⟨houtcome, hdrawn, htell'⟩ := hok hfs
      exact ⟨houtcome, hdrawn, htell.append htell'⟩
    · exact Sketch.run_ok_bind (hf ctx) messages

/-- One creation after another. The ids of the second one begin where those of the first one end. -/
theorem Follows.seq {α₁ α₂ γ₁ γ₂ : Type} {make₁ : Int64 → Int64 → α₁ → γ₁} {size₁ : α₁ → Nat}
    {make₂ : Int64 → Int64 → α₂ → γ₂} {size₂ : α₂ → Nat} {a₁ : α₁} {a₂ : α₂}
    {c₁ : Context → Creation γ₁} {c₂ : Context → Creation γ₂}
    (h₁ : Follows make₁ size₁ slots es a₁ c₁) (h₂ : Follows make₂ size₂ slots fs a₂ c₂)
    (joinSketch : α₁ → α₂ → β) (join : γ₁ → γ₂ → γ)
    (hmake : ∀ a₂ orthographyId first, make orthographyId first (joinSketch a₁ a₂) =
      join (make₁ orthographyId first a₁)
        (make₂ orthographyId (first - Int64.ofNat (size₁ a₁)) a₂))
    (hsize : size (joinSketch a₁ a₂) = size₁ a₁ + size₂ a₂) :
    Follows make size slots (es ++ fs) (joinSketch a₁ a₂)
      fun ctx => do return join (← c₁ ctx) (← c₂ ctx) := by
  obtain ⟨⟨messages, drawn, outcome⟩, herror, hok, hc₁⟩ := h₁
  simp only [hc₁]
  rw [Follows, firstError?_append]
  cases hes : firstError? es with
  | some e =>
    obtain rfl : outcome = .error e := herror e hes
    refine ⟨⟨messages, drawn, .error e⟩, ?_, nofun, fun ctx => ?_⟩
    · rintro _ ⟨⟩
      rfl
    · exact Sketch.run_error_bind messages drawn e _
  | none =>
    obtain ⟨rfl, rfl, htell⟩ : outcome = .ok a₁ ∧ drawn = size₁ a₁ ∧ _ := hok hes
    obtain ⟨s, herror, hok, hc₂⟩ := h₂
    simp only [hc₂]
    refine ⟨⟨messages ++ s.warnings, size₁ a₁ + s.drawn, s.outcome.map (joinSketch a₁)⟩,
      fun e he => ?_, fun hfs => ?_, fun ctx => ?_⟩
    · rw [herror e he]
      rfl
    · obtain ⟨houtcome, hdrawn, htell'⟩ := hok hfs
      rw [houtcome, hdrawn, hsize]
      exact ⟨rfl, rfl, htell.append htell'⟩
    · exact Sketch.run_ok_seq joinSketch join hmake messages s

theorem Follows.bindLift {r : Except CellError α} {f : Context → α → Creation γ} (hr : r = .ok a)
    (hf : Follows make size slots fs b fun ctx => f ctx a) :
    Follows make size slots fs b fun ctx => (MonadLiftT.monadLift r : Creation α) >>= f ctx :=
  .bind (.lift hr) hf

section

variable {text : List Char}

theorem makeForm_of_tooLong (h : maxFormLength < text.length) (slot : Slot) (state : FormState)
    (ctx : Context) : makeForm ctx slot text state =
      throw (.formTooLong (String.ofList text) text.length maxFormLength) := by
  simp only [makeForm, gt_iff_lt, h, ↓reduceIte]
  rfl

theorem makeForm_of_long (h : text.length ≤ maxFormLength) (hlong : longFormLength < text.length)
    (slot : Slot) (state : FormState) (ctx : Context) : makeForm ctx slot text state =
      Sketch.run ⟨[longFormMessage (String.ofList text) slot text.length], 0,
        .ok (slot.form text state)⟩ (fun _ _ form => form) ctx := by
  simp only [makeForm, gt_iff_lt, Nat.not_lt.2 h, hlong, ↓reduceIte]
  rfl

theorem makeForm_of_short (h : text.length ≤ longFormLength) (slot : Slot) (state : FormState)
    (ctx : Context) : makeForm ctx slot text state = pure (slot.form text state) := by
  have hmax : text.length ≤ maxFormLength := h.trans (by decide)
  simp only [makeForm, gt_iff_lt, Nat.not_lt.2 h, Nat.not_lt.2 hmax, ↓reduceIte]
  rfl

end

/-- A form is made, and all that comes of its length. -/
theorem FollowsDraft.makeForm {slot : Slot} (hslot : slot ∈ slots) (text : List Char)
    (state : FormState) :
    FollowsDraft slots [.form (slot.form text state)] (slot.form text state)
      fun ctx => Creation.makeForm ctx slot text state := by
  rcases Nat.lt_or_ge maxFormLength text.length with hmax | hmax
  · have herror : firstError? [.form (slot.form text state)] =
        some (.formTooLong (String.ofList text) text.length maxFormLength) := by
      simp [firstError?, Event.error?, Form.isTooLong, Form.lengthError, hmax, Slot.form]
    unfold FollowsDraft Follows
    rw [herror]
    refine ⟨⟨[], 0, .error (.formTooLong (String.ofList text) text.length maxFormLength)⟩,
      ?_, nofun, fun ctx => ?_⟩
    · rintro _ ⟨⟩
      rfl
    · exact (makeForm_of_tooLong hmax slot state ctx).trans (Sketch.run_throw _)
  · have hnone : firstError? [.form (slot.form text state)] = none := by
      simp [firstError?, Event.error?, Form.isTooLong, hmax]
    unfold FollowsDraft Follows
    rw [hnone]
    rcases Nat.lt_or_ge longFormLength text.length with hlong | hlong
    · have htold : [Event.form (slot.form text state)].filter Event.isTold =
          [.form (slot.form text state)] := by
        simp [Event.isTold, Form.isLong, hlong]
      refine ⟨_, nofun, fun _ => ⟨rfl, rfl, ?_⟩, makeForm_of_long hmax hlong slot state⟩
      rw [Tell, htold]
      exact .cons ⟨slot, hslot, rfl, by rw [Slot.length_form_text]; rfl⟩ .nil
    · have htold : [Event.form (slot.form text state)].filter Event.isTold = [] := by
        simp [Event.isTold, Form.isLong, hlong]
      refine ⟨⟨[], 0, .ok (slot.form text state)⟩, nofun, fun _ => ⟨rfl, rfl, ?_⟩, fun ctx => ?_⟩
      · rw [Tell, htold]
        exact .nil
      · exact (makeForm_of_short hlong slot state ctx).trans (Sketch.run_pure fun _ _ => rfl)

theorem Follows.bindForm {f : Context → Form → Creation γ} {slot : Slot} (hslot : slot ∈ slots)
    (text : List Char) (state : FormState)
    (h : Follows make size slots fs b fun ctx => f ctx (slot.form text state)) :
    Follows make size slots (.form (slot.form text state) :: fs) b
      fun ctx => Creation.makeForm ctx slot text state >>= f ctx :=
  .bind (.makeForm hslot text state) h

/-- A warning is raised if something is suspicious. -/
theorem Follows.ifWarn {c : Context → Creation γ} (h : Follows make size slots es b c)
    (suspicious : Bool) (message : String) :
    Follows make size slots ((if suspicious then [message] else []).map .remark ++ es) b
      (fun ctx => do
        if suspicious then Creation.warn ctx message
        c ctx) := by
  cases suspicious with
  | false => simpa using h
  | true => simpa using Follows.bind (.warn message) h

end

end Creation

/-- The forms of a variant, as events. -/
def Draft.events (d : Draft) : List Creation.Event := d.forms.map .form

namespace Creation

/-! ## Variants and lexemes -/

variable {slots : List Slot}

theorem Follows.makeVariant (index : Nat) (forms : List Form) (properties : Properties) :
    Follows (Draft.variant index) (fun _ => 1) slots [] ⟨forms, properties, none⟩
      fun ctx => Creation.makeVariant ctx index forms properties :=
  ⟨⟨[], 1, .ok ⟨forms, properties, none⟩⟩, nofun, fun _ => ⟨rfl, rfl, tell_nil⟩,
    Sketch.run_makeVariant index forms properties⟩

/-- The variants of all indices. -/
theorem Follows.range {step : Context → Nat → Creation Variant} {ds : List Draft}
    (h : ∀ k d, ds[k]? = some d →
      Follows (Draft.variant k) (fun _ => 1) slots d.events d fun ctx => step ctx k) :
    Follows Draft.lexeme List.length slots (ds.flatMap Draft.events) ds
      fun ctx => (List.range ds.length).mapM (step ctx) := by
  induction ds using List.reverseRecOn with
  | nil => exact .pure rfl fun _ _ => rfl
  | append_singleton ds d ih =>
    have hinit := ih fun k e hk =>
      h k e (List.getElem?_append_left (List.getElem?_eq_some_iff.1 hk).1 ▸ hk)
    simp only [List.length_append, List.length_singleton, List.range_succ, List.mapM_append,
      List.mapM_cons, List.mapM_nil, bind_assoc, pure_bind, List.flatMap_append,
      List.flatMap_singleton]
    exact hinit.seq (h ds.length d (by simp)) (fun ds d => ds ++ [d]) (fun vs v => vs ++ [v])
      (fun d orthographyId first => Draft.lexeme_append ..) (by simp)

/-- The lexemes of all parts. -/
theorem Follows.mapM {α : Type} {f : Context → α → Creation (List Variant)}
    {events : α → List Draft → List Event} {as : List α} {gs : List (List Draft)}
    (h : List.Forall₂ (fun a ds =>
      Follows Draft.lexeme List.length slots (events a ds) ds fun ctx => f ctx a) as gs) :
    Follows Draft.lexemes (fun gs => gs.flatten.length) slots (as.zipWith events gs).flatten gs
      fun ctx => as.mapM (f ctx) := by
  induction h with
  | nil => exact .pure rfl fun _ _ => rfl
  | cons ha _ ih =>
    simp only [List.mapM_cons]
    exact ha.seq ih List.cons List.cons (fun _ _ _ => rfl) (by simp)

/-- Leaving out lexemes without variants changes nothing if there are none. -/
theorem Follows.dropEmpty {events : List Event} {gs : List (List Draft)}
    {c : Context → Creation (List (List Variant))}
    (h : Follows Draft.lexemes (fun gs => gs.flatten.length) slots events gs c)
    (hne : ∀ g ∈ gs, g ≠ []) :
    Follows Draft.lexemes (fun gs => gs.flatten.length) slots events gs
      fun ctx => do return (← c ctx).filter (!·.isEmpty) := by
  obtain ⟨⟨messages, drawn, outcome⟩, herror, hok, hc⟩ := h
  refine ⟨⟨messages, drawn, outcome⟩, herror, hok, fun ctx => ?_⟩
  simp only [hc]
  cases hevents : firstError? events with
  | some e =>
    obtain rfl : outcome = .error e := herror e hevents
    exact Sketch.run_error_bind messages drawn e _
  | none =>
    obtain ⟨rfl, -⟩ : outcome = .ok gs ∧ _ := hok hevents
    exact Sketch.run_filter messages drawn hne

/-- Variants that are a lexeme of their own, unless there are none. -/
theorem Follows.single {events : List Event} {ds : List Draft}
    {c : Context → Creation (List Variant)}
    (h : Follows Draft.lexeme List.length slots events ds c) (hne : ds ≠ []) :
    Follows Draft.lexemes (fun gs => gs.flatten.length) slots events [ds]
      fun ctx => do
        let variants ← c ctx
        return if variants.isEmpty then [] else [variants] := by
  obtain ⟨⟨messages, drawn, outcome⟩, herror, hok, hc⟩ := h
  simp only [hc]
  cases hevents : firstError? events with
  | some e =>
    obtain rfl : outcome = .error e := herror e hevents
    refine ⟨⟨messages, drawn, .error e⟩, ?_, fun hnone => ?_, fun ctx => ?_⟩
    · intro e' he'
      rw [Option.some.inj (hevents.symm.trans he')]
    · cases hevents.symm.trans hnone
    · exact Sketch.run_error_bind messages drawn e _
  | none =>
    obtain ⟨rfl, hdrawn, htell⟩ : outcome = .ok ds ∧ _ := hok hevents
    refine ⟨⟨messages, drawn, .ok [ds]⟩, fun e he => ?_,
      fun _ => ⟨rfl, by simpa using hdrawn, htell⟩, fun ctx => funext fun ledger => ?_⟩
    · cases hevents.symm.trans he
    · show (Sketch.run _ _ ctx >>= _) ledger = _
      rw [bind_apply]
      show (Except.ok (if (Draft.lexeme ..).isEmpty then [] else [Draft.lexeme ..]), _) = _
      rw [Draft.isEmpty_lexeme, if_neg (by simpa using hne)]
      rfl

/-- A creation adds warnings only. If it succeeds, they are those of the events of what it has
created; the first error in the events of what it might have created is what it fails with. -/
theorem exists_messages {β γ : Type} {make : Int64 → Int64 → β → γ} {size : β → Nat}
    {P Q : β → Prop} {c : Context → Creation γ} {events : β → List Event}
    (hdetermined : Determined make size P c) (hP : ∀ b, P b → Q b)
    (hfollows : ∀ b, Q b → Follows make size slots (events b) b c) (ctx : Context)
    (ledger : Ledger) :
    ∃ messages, (c ctx ledger).2.diagnostics = (ledger.warn ctx messages).diagnostics ∧
      (∀ d, (c ctx ledger).1 = .ok d → ∃ b, Q b ∧ d = make ctx.orthographyId ledger.nextId b ∧
        firstError? (events b) = none ∧ Tell slots (events b) messages) ∧
      ∀ b e, Q b → firstError? (events b) = some e → (c ctx ledger).1 = .error e := by
  have herrors (b : β) (e : CellError) (hb : Q b) (he : firstError? (events b) = some e) :
      (c ctx ledger).1 = .error e := by
    obtain ⟨s, herror, -, hc⟩ := hfollows b hb
    rw [hc, Sketch.run, herror e he]
    rfl
  by_cases hQ : ∃ b, Q b
  · obtain ⟨b, hb⟩ := hQ
    obtain ⟨s, -, hok, hc⟩ := hfollows b hb
    refine ⟨s.warnings, by rw [hc]; rfl, fun d hd => ⟨b, hb, ?_⟩, herrors⟩
    cases he : firstError? (events b) with
    | some e => cases hd.symm.trans (herrors b e hb he)
    | none =>
      obtain ⟨houtcome, -, htell⟩ := hok he
      rw [hc, Sketch.run, houtcome] at hd
      exact ⟨(Except.ok.inj hd).symm, rfl, htell⟩
  · obtain ⟨e, after, hrun⟩ := hdetermined.exists_error (fun b hb => hQ ⟨b, hP b hb⟩) ctx ledger
    obtain ⟨s, -, -, hc⟩ := hdetermined
    refine ⟨s.warnings, by rw [hc]; rfl, fun d hd => ?_, herrors⟩
    rw [hrun] at hd
    cases hd

end Creation

end Wordbook
