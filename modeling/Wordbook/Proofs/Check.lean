import Mathlib.Data.List.Basic
import Wordbook.Config.Record

/-!
# Configurations that pass the check

The check of a configuration looks for a first fault. One without any has all
columns inside the row, and no two creators of a provider for one part of speech.

* `Config.IsSound`: what the check asks for;
* `Config.fault?_eq_none_iff`: it asks for nothing else;
* `Config.isSound_of_ofText`: every configuration that is read has passed it.
-/

namespace Wordbook

/-- A number that is read up to a greatest one. -/
theorem Json.upTo_le {v : Json} {greatest n : Nat}
    (h : (v.wholeWithin? 0 greatest).map Int.toNat = some n) : n ≤ greatest := by
  obtain ⟨k, hk, rfl⟩ := Option.map_eq_some_iff.1 h
  unfold wholeWithin? at hk
  split at hk
  · split at hk
    · rename_i hbounds
      obtain rfl := Option.some.inj hk
      simp only [Bool.and_eq_true, decide_eq_true_eq] at hbounds
      exact Int.toNat_le.2 hbounds.2
    · nomatch hk
  · nomatch hk

theorem Json.count?_le {v : Json} {n : Nat} (h : v.count? = some n) : n ≤ Reader.maxWord :=
  upTo_le h

/-- What the check asks of a provider. -/
structure ProviderConfig.IsSound (columnCount : Nat) (p : ProviderConfig) : Prop where
  creators_ne_nil : p.creators ≠ []
  tags : p.creators.Pairwise fun cc dd => cc.tag ≠ dd.tag
  columns : ∀ cc ∈ p.creators, ∀ k ∈ cc.columns, k < columnCount

/-- What the check asks of a configuration. -/
structure Config.IsSound (c : Config) : Prop where
  columnCount_pos : 0 < c.columnCount
  minColumnCount_le : c.minColumnCount ≤ c.columnCount
  posColumn_lt : c.posColumn < c.columnCount
  skipLines : 0 ∉ c.skipLines
  providers_ne_nil : c.providers ≠ []
  providers : ∀ p ∈ c.providers, p.IsSound c.columnCount

namespace Config

theorem creatorFault?_eq_none_iff {columnCount : Nat} {language : String} {seen : List String}
    {cc : CreatorConfig} : creatorFault? columnCount language seen cc = none ↔
      cc.tag ∉ seen ∧ ∀ k ∈ cc.columns, k < columnCount := by
  unfold creatorFault?
  split
  · rename_i h
    exact iff_of_false nofun fun hseen => hseen.1 (List.contains_iff_mem.1 h)
  · rename_i h
    have hseen : cc.tag ∉ seen := mt List.contains_iff_mem.2 h
    simp [hseen]

theorem creatorsFault?_eq_none_iff {columnCount : Nat} {language : String} {seen : List String}
    {ccs : List CreatorConfig} : creatorsFault? columnCount language seen ccs = none ↔
      (∀ cc ∈ ccs, cc.tag ∉ seen) ∧ ccs.Pairwise (fun cc dd => cc.tag ≠ dd.tag) ∧
        ∀ cc ∈ ccs, ∀ k ∈ cc.columns, k < columnCount := by
  induction ccs generalizing seen with
  | nil => simp [creatorsFault?]
  | cons cc ccs ih =>
    have hcons : creatorsFault? columnCount language seen (cc :: ccs) = none ↔
        creatorFault? columnCount language seen cc = none ∧
          creatorsFault? columnCount language (cc.tag :: seen) ccs = none := by
      rw [creatorsFault?]
      cases creatorFault? columnCount language seen cc <;> simp
    have htags : (∀ dd ∈ ccs, dd.tag ∉ cc.tag :: seen) ↔
        (∀ dd ∈ ccs, cc.tag ≠ dd.tag) ∧ ∀ dd ∈ ccs, dd.tag ∉ seen := by
      simp only [List.mem_cons, not_or, forall_and, eq_comm]
    rw [hcons, creatorFault?_eq_none_iff, ih, htags, List.forall_mem_cons, List.forall_mem_cons,
      List.pairwise_cons]
    tauto

theorem providerFault?_eq_none_iff {columnCount : Nat} {p : ProviderConfig} :
    providerFault? columnCount p = none ↔ p.IsSound columnCount := by
  unfold providerFault?
  split
  · rename_i h
    exact iff_of_false nofun fun hp => hp.creators_ne_nil (List.isEmpty_iff.1 h)
  · rename_i h
    rw [creatorsFault?_eq_none_iff]
    exact ⟨fun ⟨_, htags, hcolumns⟩ => ⟨mt List.isEmpty_iff.2 h, htags, hcolumns⟩,
      fun hp => ⟨fun _ _ => List.not_mem_nil, hp.tags, hp.columns⟩⟩

theorem fault?_eq_none_iff {c : Config} : c.fault? = none ↔ c.IsSound := by
  have hproviders : c.providers.findSome? (providerFault? c.columnCount) = none ↔
      ∀ p ∈ c.providers, p.IsSound c.columnCount := by
    rw [List.findSome?_eq_none_iff]
    exact forall₂_congr fun _ _ => providerFault?_eq_none_iff
  have hfault : c.fault? = none ↔ c.columnCount ≠ 0 ∧ ¬c.columnCount < c.minColumnCount ∧
      ¬c.columnCount ≤ c.posColumn ∧ 0 ∉ c.skipLines ∧ ¬c.providers.isEmpty ∧
      c.providers.findSome? (providerFault? c.columnCount) = none := by
    unfold fault?
    split_ifs <;> simp_all
  rw [hfault, hproviders]
  constructor
  · rintro ⟨hcount, hmin, hpos, hskip, hne, hp⟩
    exact ⟨Nat.pos_of_ne_zero hcount, Nat.le_of_not_lt hmin, Nat.lt_of_not_le hpos, hskip,
      mt List.isEmpty_iff.2 hne, hp⟩
  · intro h
    exact ⟨Nat.ne_of_gt h.columnCount_pos, Nat.not_lt_of_le h.minColumnCount_le,
      Nat.not_le_of_lt h.posColumn_lt, h.skipLines, mt List.isEmpty_iff.1 h.providers_ne_nil,
      h.providers⟩

theorem check_eq_ok_iff {c d : Config} : c.check = .ok d ↔ d = c ∧ c.IsSound := by
  rw [← fault?_eq_none_iff, check]
  cases c.fault? <;> simp [eq_comm]

theorem isSound_of_ofText {t : List Char} {c : Config} (h : ofText t = .ok c) : c.IsSound := by
  unfold ofText at h
  split at h
  · obtain ⟨rfl, hc⟩ := check_eq_ok_iff.1 h
    exact hc
  · nomatch h

/-- The columns of a configuration can be counted in 64 bits. -/
theorem columnCount_le_of_ofText {t : List Char} {c : Config} (h : ofText t = .ok c) :
    c.columnCount ≤ Json.Reader.maxWord := by
  unfold ofText at h
  split at h
  · rename_i hread
    obtain ⟨rfl, -⟩ := check_eq_ok_iff.1 h
    obtain ⟨v, -, hv⟩ := Option.bind_eq_some_iff.1 hread
    simp only [ofJson?, Option.bind_eq_bind, Option.bind_eq_some_iff, Option.pure_def,
      Option.some.injEq, Json.Record.required] at hv
    obtain ⟨_, -, _, -, _, ⟨w, -, hcount⟩, _, -, _, -, _, -, _, -, _, -, rfl⟩ := hv
    exact Json.count?_le hcount
  · nomatch h

end Config

end Wordbook
