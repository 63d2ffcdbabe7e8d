import Wordbook.Command.Actions
import Wordbook.Command.Folder

/-!
# Runs of scripts

A script that goes on with another one runs both, one after the other, in the
same surroundings. A command stops at the first failure.

* `Script.runIn_bind`, `Command.runIn_bind`: one after the other;
* `Command.runIn_toScript`: what is shown of a failure, and its exit code;
* `Script.Ends`: what a script ends in wherever it is run, a folder or a system;
* `Command.Yields`: a command that may be refused, but is never at fault.
-/

namespace Wordbook

section

variable {α β : Type} {around : Surroundings}

theorem Script.runIn_bind (c : Script α) (f : α → Script β) (s : Session) :
    (c.bind f).runIn around s = (f (c.runIn around s).1).runIn around (c.runIn around s).2 := by
  induction c generalizing s with
  | done a => rfl
  | tell line next ih => exact ih _
  | put line next ih => exact ih _
  | environment name next ih => exact ih _ _
  | load path next ih => exact ih _ _
  | store path bytes next ih =>
    rw [bind, runIn, runIn]
    cases s.folder.store path bytes with
    | ok folder => exact ih _ _
    | error reason => exact ih _ _
  | clock next ih => exact ih _ _
  | freshId next ih => exact ih _ _

namespace Command

/-- The run of a command in a folder. -/
def runIn (around : Surroundings) (c : Command α) (s : Session) : Except Failure α × Session :=
  Script.runIn around c.run s

theorem runIn_bind (c : Command α) (f : α → Command β) (s : Session) :
    (c >>= f).runIn around s = match c.runIn around s with
      | (.ok a, s) => (f a).runIn around s
      | (.error failure, s) => (.error failure, s) := by
  show Script.runIn around (Script.bind c.run (ExceptT.bindCont f)) s = _
  rw [Script.runIn_bind, runIn]
  rcases Script.runIn around c.run s with ⟨_ | a, s⟩ <;> rfl

theorem runIn_bind_of_ok {c : Command α} {a : α} {s s₁ : Session}
    (h : c.runIn around s = (.ok a, s₁)) (f : α → Command β) :
    (c >>= f).runIn around s = (f a).runIn around s₁ := by
  rw [runIn_bind, h]

theorem runIn_bind_eq_ok_iff {c : Command α} {f : α → Command β} {s s' : Session} {b : β} :
    (c >>= f).runIn around s = (.ok b, s') ↔
      ∃ a s₁, c.runIn around s = (.ok a, s₁) ∧ (f a).runIn around s₁ = (.ok b, s') := by
  rw [runIn_bind]
  rcases c.runIn around s with ⟨failure | a, s₁⟩
  · simp
  · constructor
    · exact fun h => ⟨a, s₁, rfl, h⟩
    · rintro ⟨_, _, ⟨⟩, h⟩
      exact h

theorem runIn_pure (a : α) (s : Session) : (pure a : Command α).runIn around s = (.ok a, s) := rfl

theorem runIn_attempt (r : Except Failure α) (s : Session) :
    (attempt r).runIn around s = (r, s) := rfl

theorem runIn_tell (line : String) (s : Session) :
    (tell line).runIn around s = (.ok (), { s with told := s.told ++ [line] }) := rfl

theorem runIn_put (line : String) (s : Session) :
    (put line).runIn around s = (.ok (), { s with output := s.output ++ [line] }) := rfl

theorem runIn_load (path : String) (s : Session) :
    (load path).runIn around s = (.ok (s.folder.load path), s) := rfl

theorem runIn_clock (s : Session) : clock.runIn around s = (.ok around.clock, s) := rfl

theorem runIn_freshId (s : Session) : freshId.runIn around s = (.ok around.freshId, s) := rfl

theorem runIn_store (path : String) (bytes : List UInt8) (s : Session) :
    (store path bytes).runIn around s = match s.folder.store path bytes with
      | .ok folder => (.ok (), { s with folder := folder })
      | .error reason => (.error (.refused reason), s) := by
  show Script.runIn around (Script.store path bytes _) s = _
  rw [Script.runIn]
  cases s.folder.store path bytes <;> rfl

theorem runIn_tellAll (lines : List String) (s : Session) :
    (tellAll lines).runIn around s = (.ok (), { s with told := s.told ++ lines }) := by
  induction lines generalizing s with
  | nil => rw [List.append_nil]; rfl
  | cons line lines ih =>
    show (tell line >>= fun _ => tellAll lines).runIn around s = _
    rw [runIn_bind, runIn_tell]
    dsimp only
    rw [ih, List.append_assoc, List.singleton_append]

/-- A failure is shown, and tells the exit code. -/
theorem runIn_toScript (c : Command Nat) (s : Session) :
    c.toScript.runIn around s = match c.runIn around s with
      | (.ok code, s) => (code, s)
      | (.error (.refused message), s) =>
        (refusedCode, { s with told := s.told ++ [s!"❌ Error: {message}"] })
      | (.error (.broken fault), s) =>
        (brokenCode, { s with told := s.told ++ [fault.message] }) := by
  show Script.runIn around (Script.bind c.run _) s = _
  rw [Script.runIn_bind, runIn]
  rcases Script.runIn around c.run s with ⟨(message | fault) | code, s⟩ <;> rfl

/-- No failure has the exit code of a success. -/
theorem runIn_toScript_eq_success_iff {c : Command Nat} {s s' : Session} :
    c.toScript.runIn around s = (successCode, s') ↔
      c.runIn around s = (.ok successCode, s') := by
  rw [runIn_toScript]
  rcases c.runIn around s with ⟨(message | fault) | code, s₁⟩
  · simp [refusedCode, successCode]
  · simp [brokenCode, successCode]
  · simp

end Command

end

variable {α β : Type}

namespace Script

/-- A script ends in something of which `P` holds, whatever it finds around it. -/
def Ends (P : α → Prop) : Script α → Prop
  | done a => P a
  | tell _ next => next.Ends P
  | put _ next => next.Ends P
  | environment _ next => ∀ value, (next value).Ends P
  | load _ next => ∀ file, (next file).Ends P
  | store _ _ next => ∀ result, (next result).Ends P
  | clock next => ∀ time, (next time).Ends P
  | freshId next => ∀ id, (next id).Ends P

variable {P Q : α → Prop} {c : Script α}

theorem Ends.imp (h : c.Ends P) (hPQ : ∀ a, P a → Q a) : c.Ends Q := by
  induction c with
  | done a => exact hPQ a h
  | tell _ _ ih | put _ _ ih => exact ih h
  | environment _ _ ih | load _ _ ih | store _ _ _ ih | clock _ ih | freshId _ ih =>
    exact fun answer => ih answer (h answer)

theorem ends_true (c : Script α) : c.Ends fun _ => True := by
  induction c with
  | done a => exact trivial
  | tell _ _ ih | put _ _ ih => exact ih
  | environment _ _ ih | load _ _ ih | store _ _ _ ih | clock _ ih | freshId _ ih => exact ih

theorem Ends.bind {P : β → Prop} {f : α → Script β} (h : c.Ends fun a => (f a).Ends P) :
    (c.bind f).Ends P := by
  induction c with
  | done a => exact h
  | tell _ _ ih | put _ _ ih => exact ih h
  | environment _ _ ih | load _ _ ih | store _ _ _ ih | clock _ ih | freshId _ ih =>
    exact fun answer => ih answer (h answer)

/-- A run in a folder is one of those that a script may take. -/
theorem Ends.runIn (h : c.Ends P) (around : Surroundings) (s : Session) :
    P (c.runIn around s).1 := by
  induction c generalizing s with
  | done a => exact h
  | tell _ _ ih | put _ _ ih => exact ih h _
  | environment _ _ ih | load _ _ ih | clock _ ih | freshId _ ih => exact ih _ (h _) _
  | store path bytes next ih =>
    rw [Script.runIn]
    cases s.folder.store path bytes with
    | ok folder => exact ih _ (h _) _
    | error reason => exact ih _ (h _) _

end Script

namespace Command

/-- A result of which `P` holds, or a refusal. -/
inductive Sound (P : α → Prop) : Except Failure α → Prop where
  | ok {a} : P a → Sound P (.ok a)
  | refused {message} : Sound P (.error (.refused message))

/-- A command is refused or yields something of which `P` holds. It is never at fault. -/
def Yields (c : Command α) (P : α → Prop) : Prop := c.run.Ends (Sound P)

variable {P : α → Prop} {Q : β → Prop} {c : Command α}

theorem Yields.bind {f : α → Command β} (h : c.Yields P) (hf : ∀ a, P a → (f a).Yields Q) :
    (c >>= f).Yields Q := by
  refine Script.Ends.bind (Script.Ends.imp h fun result hresult => ?_)
  cases hresult with
  | ok ha => exact hf _ ha
  | refused => exact .refused

theorem Yields.imp {R : α → Prop} (h : c.Yields P) (hPR : ∀ a, P a → R a) : c.Yields R := by
  refine Script.Ends.imp h fun result hresult => ?_
  cases hresult with
  | ok ha => exact .ok (hPR _ ha)
  | refused => exact .refused

theorem yields_pure {a : α} (h : P a) : (pure a : Command α).Yields P := Sound.ok h

/-- What is only asked of the surroundings. -/
theorem yields_lift (c : Script α) : Yields (ExceptT.lift c) fun _ => True :=
  Script.Ends.bind (c.ends_true.imp fun _ _ => Sound.ok trivial)

theorem yields_ofError {ε : Type} (message : ε → String) (r : Except ε α) :
    (attempt (Failure.ofError message r)).Yields fun a => r = .ok a := by
  cases r with
  | ok a => exact Sound.ok rfl
  | error e => exact Sound.refused

theorem yields_ofFault {r : Except Fault α} {a : α} (h : r = .ok a) :
    (attempt (Failure.ofFault r)).Yields (· = a) := by
  rw [h]
  exact Sound.ok rfl

theorem yields_store (path : String) (bytes : List UInt8) :
    (store path bytes).Yields fun _ => True :=
  (yields_lift _).bind fun _ _ => (yields_ofError id _).imp fun _ _ => trivial

theorem yields_tellAll (lines : List String) : (tellAll lines).Yields fun _ => True := by
  induction lines with
  | nil => exact yields_pure trivial
  | cons line lines ih => exact (yields_lift _).bind fun _ _ => ih

/-- A refusal has its own exit code. -/
theorem Yields.toScript {c : Command Nat} (h : c.Yields (· ≠ brokenCode)) :
    c.toScript.Ends (· ≠ brokenCode) := by
  refine Script.Ends.bind (Script.Ends.imp h fun result hresult => ?_)
  cases hresult with
  | ok hcode => exact hcode
  | refused => exact (by decide : refusedCode ≠ brokenCode)

end Command

end Wordbook
