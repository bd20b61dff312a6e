import Mathlib.Data.Set.Insert

/-!
# DaemonGroup.Lib.Replica

A set whose entries have two keys, and a replica that learns of its changes by notes only:

* `K.apply R n` — the replica `R` once it has taken the note `n`. An entry is taken only if both its
  keys are free.
* `K.replay R ns` — the replica after the notes `ns`, in order.
* `Tracks whole R S` — the replica `R` holds nothing that the set `S` lacks, and all of it if
  `whole`.

There is a rule for each change of the set whose note is taken, and for each note that tells nothing
new. Nothing here knows what the entries are.
-/

namespace DaemonGroup
namespace Lib

/-- The two keys of an entry. -/
structure Keys (ε κ α : Type) where
  key : ε → κ
  addr : ε → α

inductive Note (ε κ α : Type) where
  | add (x : ε)
  | drop (k : κ)
  /-- the entry with the key `k`, if there is one, has the other key `a` -/
  | confirm (k : κ) (a : α)
  | clear
  | skip

section
variable {ε κ α : Type} (K : Keys ε κ α)

/-- No entry of `S` has a key of `x`. -/
def Keys.Fresh (S : Set ε) (x : ε) : Prop := ∀ y ∈ S, K.key y ≠ K.key x ∧ K.addr y ≠ K.addr x

/-- An entry of `S` with a key of `x` is `x`. -/
def Keys.Unique (S : Set ε) (x : ε) : Prop :=
  ∀ y ∈ S, K.key y = K.key x ∨ K.addr y = K.addr x → y = x

def Keys.apply (R : Set ε) : Note ε κ α → Set ε
  | .add x => {y | y ∈ R ∨ y = x ∧ K.Fresh R x}
  | .drop k => {y | y ∈ R ∧ K.key y ≠ k}
  | .confirm k a => {y | y ∈ R ∧ (K.key y = k → K.addr y = a)}
  | .clear => ∅
  | .skip => R

def Keys.replay (R : Set ε) (ns : List (Note ε κ α)) : Set ε := ns.foldl K.apply R

theorem Keys.replay_append {R : Set ε} {ns ms : List (Note ε κ α)} :
    K.replay R (ns ++ ms) = K.replay (K.replay R ns) ms :=
  List.foldl_append

variable {K}

structure Tracks (whole : Prop) (R S : Set ε) : Prop where
  sub : R ⊆ S
  all : whole → S ⊆ R

section
variable {whole : Prop} {R S T : Set ε} {x : ε} {k : κ} {a : α}

/-- What one follows who has been told everything. -/
theorem Tracks.eq (h : Tracks whole R S) (hw : whole) : R = S :=
  Set.Subset.antisymm h.sub (h.all hw)

theorem Tracks.of_eq (h : Tracks whole R S) (hT : ∀ y, y ∈ T ↔ y ∈ S) : Tracks whole R T :=
  ⟨fun y hy => (hT y).mpr (h.sub hy), fun hw y hy => h.all hw ((hT y).mp hy)⟩

theorem Tracks.empty {S : Set ε} (h : ¬ whole) : Tracks whole ∅ S :=
  ⟨Set.empty_subset S, fun hw => absurd hw h⟩

theorem Tracks.mono {whole' : Prop} (h : Tracks whole R S) (hw : whole' → S ⊆ R) :
    Tracks whole' R S :=
  ⟨h.sub, hw⟩

/-- A new entry, and its note. -/
theorem Tracks.add (h : Tracks whole R S) (hx : K.Fresh S x) (hT : ∀ y, y ∈ T ↔ y ∈ S ∨ y = x) :
    Tracks whole (K.apply R (.add x)) T := by
  constructor
  · rintro y (hy | ⟨rfl, -⟩)
    · exact (hT y).mpr (.inl (h.sub hy))
    · exact (hT y).mpr (.inr rfl)
  · intro hw y hy
    rcases (hT y).mp hy with hy | rfl
    · exact .inl (h.all hw hy)
    · exact .inr ⟨rfl, fun z hz => hx z (h.sub hz)⟩

/-- An entry leaves, and its note. -/
theorem Tracks.drop (h : Tracks whole R S) (hT : ∀ y, y ∈ T ↔ y ∈ S ∧ K.key y ≠ k) :
    Tracks whole (K.apply R (.drop k)) T := by
  constructor
  · rintro y ⟨hy, hk⟩
    exact (hT y).mpr ⟨h.sub hy, hk⟩
  · intro hw y hy
    obtain ⟨hy, hk⟩ := (hT y).mp hy
    exact ⟨h.all hw hy, hk⟩

/-- The note of an entry that has not changed. -/
theorem Tracks.confirm (h : Tracks whole R S) (hx : ∀ y ∈ S, K.key y = k → K.addr y = a) :
    Tracks whole (K.apply R (.confirm k a)) S :=
  ⟨fun _ hy => h.sub hy.1, fun hw y hy => ⟨h.all hw hy, hx y hy⟩⟩

/-- The note of an entry that may be known already. -/
theorem Tracks.again (h : Tracks whole R S) (hu : K.Unique S x) (hx : x ∈ S) :
    Tracks whole (K.apply R (.add x)) S ∧ x ∈ K.apply R (.add x) := by
  refine ⟨⟨?_, fun hw y hy => .inl (h.all hw hy)⟩, ?_⟩
  · rintro y (hy | ⟨rfl, -⟩)
    · exact h.sub hy
    · exact hx
  · by_cases hxR : x ∈ R
    · exact .inl hxR
    · refine .inr ⟨rfl, fun y hy => ?_⟩
      constructor
      · intro hk
        exact hxR (hu y (h.sub hy) (.inl hk) ▸ hy)
      · intro ha
        exact hxR (hu y (h.sub hy) (.inr ha) ▸ hy)

/-- Everything has left, and the replica has been emptied. -/
theorem Tracks.clear (hS : ∀ y, y ∉ S) : Tracks whole (∅ : Set ε) S :=
  ⟨Set.empty_subset S, fun _ y hy => absurd hy (hS y)⟩

end

end

end Lib
end DaemonGroup
