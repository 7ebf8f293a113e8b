import InputStaging.Fileset.Manifest
import Mathlib.Logic.Function.Iterate

/-!
# Chains of links

A link to another entry of its fileset is followed hop by hop. `Leads` says, without
any bookkeeping, that a chain leaves the links after a number of hops; `chase` finds
its end exactly if that number is within the limit. Cycles need no treatment of their
own here: a chain that comes back to itself leads nowhere.
-/

namespace InputStaging.Resolver

/-- One hop: to where the link at the location points. Without a link there one stays. -/
def hop (target? : Path → Option String) (at_ : Path) : Path :=
  match target? at_ with
  | some target => (at_.parent / Path.ofString target).normalize
  | none => at_

/-- The chain from `start` goes from link to link until, after `hops` hops, it comes to a
location without a link. -/
structure Leads (target? : Path → Option String) (start : Path) (hops : Nat)
    (finish : Path) : Prop where
  positive : 1 ≤ hops
  linked : ∀ j, 1 ≤ j → j < hops → (target? ((hop target?)^[j] start)).isSome
  arrives : (hop target?)^[hops] start = finish
  free : target? finish = none

theorem hop_of_some {target? : Path → Option String} {at_ : Path} {target : String}
    (h : target? at_ = some target) :
    hop target? at_ = (at_.parent / Path.ofString target).normalize := by
  rw [hop, h]

theorem leads_one_iff {target? : Path → Option String} {start finish : Path} :
    Leads target? start 1 finish ↔ hop target? start = finish ∧ target? finish = none := by
  constructor
  · intro h
    exact ⟨h.arrives, h.free⟩
  · rintro ⟨ha, hf⟩
    exact ⟨Nat.le_refl _, fun j h₁ h₂ => by omega, ha, hf⟩

/-- A longer chain goes on from the link that the first hop comes to. -/
theorem leads_succ_succ_iff {target? : Path → Option String} {start finish : Path} {n : Nat} :
    Leads target? start (n + 2) finish ↔
      (target? (hop target? start)).isSome ∧ Leads target? (hop target? start) (n + 1) finish := by
  constructor
  · intro h
    refine ⟨h.linked 1 (Nat.le_refl _) (by omega), by omega, ?_, ?_, h.free⟩
    · intro j h₁ h₂
      have hl := h.linked (j + 1) (by omega) (by omega)
      rwa [Function.iterate_succ_apply] at hl
    · have ha := h.arrives
      rwa [Function.iterate_succ_apply] at ha
  · rintro ⟨hs, h⟩
    refine ⟨by omega, ?_, ?_, h.free⟩
    · intro j h₁ h₂
      obtain ⟨i, rfl⟩ : ∃ i, j = i + 1 := ⟨j - 1, by omega⟩
      rw [Function.iterate_succ_apply]
      cases i with
      | zero => exact hs
      | succ i => exact h.linked (i + 1) (by omega) (by omega)
    · rw [Function.iterate_succ_apply]
      exact h.arrives

theorem Leads.unique {target? : Path → Option String} {start p q : Path} {m n : Nat}
    (hp : Leads target? start m p) (hq : Leads target? start n q) : p = q := by
  have hmn : m = n := by
    rcases Nat.lt_trichotomy m n with h | h | h
    · have hl := hq.linked m hp.positive h
      rw [hp.arrives, hp.free] at hl
      cases hl
    · exact h
    · have hl := hp.linked n hq.positive h
      rw [hq.arrives, hq.free] at hl
      cases hl
  rw [← hp.arrives, ← hq.arrives, hmn]

/-- Hops do not leave a set of linked locations that is closed under them. -/
theorem not_leads_of_closed {target? : Path → Option String} {seen : List Path} {start : Path}
    (linked : ∀ s ∈ seen, (target? s).isSome) (closed : ∀ s ∈ seen, hop target? s ∈ seen)
    (hs : hop target? start ∈ seen) (k : Nat) (finish : Path) :
    ¬ Leads target? start k finish := by
  have stays : ∀ n, (hop target?)^[n + 1] start ∈ seen := by
    intro n
    induction n with
    | zero => exact hs
    | succ n ih =>
      rw [Function.iterate_succ_apply']
      exact closed _ ih
  intro h
  obtain ⟨n, rfl⟩ : ∃ n, k = n + 1 := ⟨k - 1, by have := h.positive; omega⟩
  have hl := linked _ (stays n)
  rw [h.arrives, h.free] at hl
  cases hl

/-- What the chain has seen when it stands at `current`: links, each of which leads to one
that was seen or to where the next hop leads. -/
def Trail (links : Table Path String) (current : Path) (seen : List Path) : Prop :=
  ∀ s ∈ seen, (links.get? s).isSome ∧
    (hop links.get? s ∈ seen ∨ hop links.get? s = hop links.get? current)

theorem trail_nil (links : Table Path String) (current : Path) : Trail links current [] := by
  intro s hs
  cases hs

theorem Trail.step {links : Table Path String} {current : Path} {seen : List Path}
    (h : Trail links current seen) (hl : (links.get? (hop links.get? current)).isSome) :
    Trail links (hop links.get? current) (seen ++ [hop links.get? current]) := by
  intro s hs
  rcases List.mem_append.mp hs with hs | hs
  · obtain ⟨hsome, hnext⟩ := h s hs
    refine ⟨hsome, .inl (List.mem_append.mpr ?_)⟩
    rcases hnext with hin | heq
    · exact .inl hin
    · exact .inr (by simp [heq])
  · obtain rfl := List.mem_singleton.mp hs
    exact ⟨hl, .inr rfl⟩

/-- A trail that the next hop comes back to is closed. -/
theorem Trail.not_leads {links : Table Path String} {current : Path} {seen : List Path}
    (h : Trail links current seen) (hs : hop links.get? current ∈ seen) (k : Nat)
    (finish : Path) : ¬ Leads links.get? current k finish := by
  refine not_leads_of_closed (fun s hs => (h s hs).1) (fun s hin => ?_) hs k finish
  rcases (h s hin).2 with hnext | hnext
  · exact hnext
  · rw [hnext]
    exact hs

/-- Following a link finds the end of its chain exactly if the limit allows for it. -/
theorem chase_eq_arrived_iff {links : Table Path String} {limit : Nat} {current finish : Path}
    {target : String} {seen : List Path} (ht : links.get? current = some target)
    (hseen : Trail links current seen) :
    chase links limit current target seen = .arrived finish ↔
      ∃ k ≤ limit, Leads links.get? current k finish := by
  induction limit generalizing current target seen with
  | zero =>
    refine ⟨fun h => (by simp [chase] at h), ?_⟩
    rintro ⟨k, hk, h⟩
    have := h.positive
    omega
  | succ limit ih =>
    have hhop := hop_of_some ht
    rw [chase, ← hhop]
    by_cases hback : hop links.get? current ∈ seen
    · rw [if_pos hback]
      constructor
      · intro h
        split at h <;> cases h
      · rintro ⟨k, -, h⟩
        exact absurd h (hseen.not_leads hback k finish)
    · rw [if_neg hback]
      cases hnext : links.get? (hop links.get? current) with
      | none =>
        constructor
        · intro h
          obtain rfl := Chase.arrived.inj h
          exact ⟨1, by omega, leads_one_iff.mpr ⟨rfl, hnext⟩⟩
        · rintro ⟨k, -, h⟩
          rw [(leads_one_iff.mpr ⟨rfl, hnext⟩ : Leads links.get? current 1 _).unique h]
      | some next =>
        have hsome : (links.get? (hop links.get? current)).isSome := by rw [hnext]; rfl
        show chase links limit (hop links.get? current) next _ = _ ↔ _
        rw [ih hnext (hseen.step hsome)]
        constructor
        · rintro ⟨k, hk, h⟩
          obtain ⟨n, rfl⟩ : ∃ n, k = n + 1 := ⟨k - 1, by have := h.positive; omega⟩
          exact ⟨n + 2, by omega, leads_succ_succ_iff.mpr ⟨hsome, h⟩⟩
        · rintro ⟨k, hk, h⟩
          rcases k with _ | _ | n
          · have := h.positive
            omega
          · obtain ⟨harr, hfree⟩ := leads_one_iff.mp h
            rw [harr, hfree] at hnext
            cases hnext
          · exact ⟨n + 1, by omega, (leads_succ_succ_iff.mp h).2⟩

end InputStaging.Resolver
