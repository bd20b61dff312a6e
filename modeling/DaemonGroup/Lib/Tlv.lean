import Mathlib.Data.List.Basic

/-!
# DaemonGroup.Lib.Tlv

Walking a list of type-length-value options, the length counting its own two header bytes. The
walk threads a state through a body that is run on each option and may end it early. A malformed
option ends it too, whatever the body has done up to there. `tlvWalk_rule` is the rule for its
invariants, `tlvWalk_meets` the one for what an option met on the way brings about, `tlvWalk_sim`
the one for two walks side by side.
-/

namespace DaemonGroup
namespace Lib

section
variable {σ ρ : Type}

/-- The walk over `cur`, of which `len` bytes are left: every option takes at least two, so `len`
rounds are enough. The result is the final state or the value the walk was ended with. -/
def tlvWalk (bad : σ → ρ) (body : List UInt8 → Nat → σ → σ ⊕ ρ) :
    Nat → List UInt8 → Nat → σ → σ ⊕ ρ
  | 0, _, _, s => .inl s
  | fuel + 1, cur, len, s =>
    if len = 0 then
      .inl s
    else if len < 2 ∨ (cur.getD 1 0).toNat < 2 ∨ (cur.getD 1 0).toNat > len then
      .inr (bad s)
    else
      match body cur (cur.getD 1 0).toNat s with
      | .inl s' =>
        tlvWalk bad body fuel (cur.drop (cur.getD 1 0).toNat) (len - (cur.getD 1 0).toNat) s'
      | .inr r => .inr r

/-! A body is mostly a chain of tests: what it does is right if each of its ends is. -/

theorem body_ite {I : σ → Prop} {Q : ρ → Prop} {c : Prop} [Decidable c] {x y : σ ⊕ ρ}
    (hx : c → (∀ s, x = .inl s → I s) ∧ ∀ r, x = .inr r → Q r)
    (hy : ¬ c → (∀ s, y = .inl s → I s) ∧ ∀ r, y = .inr r → Q r) :
    (∀ s, (if c then x else y) = .inl s → I s) ∧ ∀ r, (if c then x else y) = .inr r → Q r := by
  split
  · next h => exact hx h
  · next h => exact hy h

theorem body_inl {I : σ → Prop} {Q : ρ → Prop} {s : σ} (h : I s) :
    (∀ s', (.inl s : σ ⊕ ρ) = .inl s' → I s') ∧ ∀ r, (.inl s : σ ⊕ ρ) = .inr r → Q r :=
  ⟨fun _ hs => Sum.inl.inj hs ▸ h, nofun⟩

theorem body_inr {I : σ → Prop} {Q : ρ → Prop} {r : ρ} (h : Q r) :
    (∀ s, (.inr r : σ ⊕ ρ) = .inl s → I s) ∧ ∀ r', (.inr r : σ ⊕ ρ) = .inr r' → Q r' :=
  ⟨nofun, fun _ hr => Sum.inr.inj hr ▸ h⟩

/-- The rule for a walk: an invariant of the states that every option keeps holds at its end, and
what the body and `bad` guarantee of the values they end it with holds of the value it ended
with. -/
theorem tlvWalk_rule {bad : σ → ρ} {body : List UInt8 → Nat → σ → σ ⊕ ρ} {I : σ → Prop}
    {Q : ρ → Prop} (hbad : ∀ s, I s → Q (bad s))
    (hbody : ∀ cur n s, I s →
      (∀ s', body cur n s = .inl s' → I s') ∧ (∀ r, body cur n s = .inr r → Q r))
    {fuel : Nat} {cur : List UInt8} {len : Nat} {s : σ} (hs : I s) :
    (∀ s', tlvWalk bad body fuel cur len s = .inl s' → I s') ∧
      (∀ r, tlvWalk bad body fuel cur len s = .inr r → Q r) := by
  induction fuel generalizing cur len s with
  | zero =>
    constructor
    · intro s' h; cases h; exact hs
    · intro r h; cases h
  | succ fuel ih =>
    rw [tlvWalk]
    split
    · constructor
      · intro s' h; cases h; exact hs
      · intro r h; cases h
    · split
      · constructor
        · intro s' h; cases h
        · intro r h; cases h; exact hbad s hs
      · obtain ⟨h₁, h₂⟩ := hbody cur (cur.getD 1 0).toNat s hs
        cases hb : body cur (cur.getD 1 0).toNat s with
        | inl s' => exact ih (h₁ s' hb)
        | inr r =>
          constructor
          · intro s' h; cases h
          · intro r' h; cases h; exact h₂ r hb

/-- Two walks over the same options, whose bodies keep their states related and stop together, end
together in states that are related. -/
theorem tlvWalk_sim {τ κ : Type} {bad : σ → ρ} {body : List UInt8 → Nat → σ → σ ⊕ ρ} {bad' : τ → κ}
    {body' : List UInt8 → Nat → τ → τ ⊕ κ} {R : σ → τ → Prop} {Q : ρ → κ → Prop}
    (hbad : ∀ s t, R s t → Q (bad s) (bad' t))
    (hbody : ∀ cur n s t, R s t → Sum.LiftRel R Q (body cur n s) (body' cur n t))
    {fuel : Nat} {cur : List UInt8} {len : Nat} {s : σ} {t : τ} (hs : R s t) :
    Sum.LiftRel R Q (tlvWalk bad body fuel cur len s) (tlvWalk bad' body' fuel cur len t) := by
  induction fuel generalizing cur len s t with
  | zero => exact .inl hs
  | succ fuel ih =>
    rw [tlvWalk, tlvWalk]
    split
    · exact .inl hs
    · split
      · exact .inr (hbad s t hs)
      · have hb := hbody cur (cur.getD 1 0).toNat s t hs
        cases h₁ : body cur (cur.getD 1 0).toNat s <;>
          cases h₂ : body' cur (cur.getD 1 0).toNat t <;> rw [h₁, h₂] at hb
        · exact ih (Sum.liftRel_inl_inl.mp hb)
        · cases hb
        · cases hb
        · exact hb

/-- The options that the walk goes through, each with the bytes behind it. -/
def tlvList : Nat → List UInt8 → Nat → List (List UInt8)
  | 0, _, _ => []
  | fuel + 1, cur, len =>
    if len = 0 then
      []
    else if len < 2 ∨ (cur.getD 1 0).toNat < 2 ∨ (cur.getD 1 0).toNat > len then
      []
    else
      cur :: tlvList fuel (cur.drop (cur.getD 1 0).toNat) (len - (cur.getD 1 0).toNat)

/-- A property that an option of a kind brings about, and that no option takes away, holds at the
end of a walk that meets an option of that kind. -/
theorem tlvWalk_meets {bad : σ → ρ} {body : List UInt8 → Nat → σ → σ ⊕ ρ} {I P : σ → Prop}
    {H : List UInt8 → Prop}
    (hI : ∀ cur n s s', I s → body cur n s = .inl s' → I s')
    (hP : ∀ cur n s s', 2 ≤ n → I s → P s ∨ H cur → body cur n s = .inl s' → P s')
    {fuel : Nat} {cur : List UInt8} {len : Nat} {s s' : σ} (hs : I s)
    (hm : P s ∨ ∃ o ∈ tlvList fuel cur len, H o)
    (hw : tlvWalk bad body fuel cur len s = .inl s') : P s' := by
  induction fuel generalizing cur len s with
  | zero =>
    cases hw
    simpa [tlvList] using hm
  | succ fuel ih =>
    rw [tlvWalk] at hw
    rw [tlvList] at hm
    split at hw
    · rename_i hlen
      cases hw
      simpa [hlen] using hm
    · rename_i hlen
      rw [if_neg hlen] at hm
      split at hw
      · cases hw
      · rename_i hok
        rw [if_neg hok] at hm
        cases hb : body cur (cur.getD 1 0).toNat s with
        | inr r => rw [hb] at hw; cases hw
        | inl t =>
          rw [hb] at hw
          refine ih (hI _ _ _ _ hs hb) ?_ hw
          have h2 : 2 ≤ (cur.getD 1 0).toNat := by omega
          rcases hm with hp | ⟨o, ho, hh⟩
          · exact .inl (hP _ _ _ _ h2 hs (.inl hp) hb)
          · rcases List.mem_cons.mp ho with rfl | ho
            · exact .inl (hP _ _ _ _ h2 hs (.inr hh) hb)
            · exact .inr ⟨o, ho, hh⟩

end

end Lib
end DaemonGroup
