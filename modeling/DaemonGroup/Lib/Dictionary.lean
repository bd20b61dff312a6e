import DaemonGroup.Lib.Buckets

/-!
# DaemonGroup.Lib.Dictionary

Hash tables whose chains hold the entries themselves are dictionaries. `key` reads the key of an entry and
`hash` the hash value of a key.

* `Neat hash key T` — every entry is in the chain of its key, and no two of a chain share a key.
* `lookup` — what the dictionary has for a key: the first entry with it in its chain.
* `amend`, `takeOut` — the first entry with a key is changed, or taken out of its chain.
* `lookup_cons`, `lookup_amend`, `lookup_takeOut`, `lookup_sweep` — what the operations do to the dictionary.
-/

namespace DaemonGroup
namespace Lib
namespace Dictionary

open Buckets

section
variable {α κ : Type}

structure Neat (hash : κ → Nat) (key : α → κ) (T : Nat → List α) : Prop where
  home : ∀ h, ∀ a ∈ T h, hash (key a) = h
  nodup : ∀ h, ((T h).map key).Nodup

section
variable {hash : κ → Nat} {key : α → κ} {T : Nat → List α} {k : κ} {a : α} {l : List α}

theorem Neat.empty : Neat hash key (fun _ => ([] : List α)) :=
  ⟨fun _ _ ha => (by cases ha), fun _ => List.nodup_nil⟩

theorem Neat.update (h : Neat hash key T) (hhome : ∀ a ∈ l, hash (key a) = hash k)
    (hnodup : (l.map key).Nodup) : Neat hash key (Function.update T (hash k) l) := by
  refine ⟨fun i a ha => ?_, fun i => ?_⟩ <;> by_cases hi : i = hash k
  · subst hi
    rw [Function.update_self] at ha
    exact hhome a ha
  · rw [Function.update_of_ne hi] at ha
    exact h.home i a ha
  · subst hi
    rwa [Function.update_self]
  · rw [Function.update_of_ne hi]
    exact h.nodup i

/-- The keys of a chain are all there is to its hash values. -/
theorem Neat.home_keys (h : Neat hash key T) (hl : ∀ x ∈ l.map key, x ∈ (T (hash k)).map key) (ha : a ∈ l) :
    hash (key a) = hash k := by
  obtain ⟨b, hb, he⟩ := List.mem_map.mp (hl _ (List.mem_map_of_mem ha))
  rw [← he]
  exact h.home _ b hb

theorem Neat.sweep {p : α → Bool} (h : Neat hash key T) : Neat hash key (fun i => (T i).filter p) :=
  ⟨fun i a ha => h.home i a (List.mem_of_mem_filter ha), fun i =>
    (h.nodup i).sublist (List.filter_sublist.map key)⟩

end

section
variable [DecidableEq κ]

/-- The first entry of a chain with the key `k` is changed. -/
def amend (key : α → κ) (k : κ) (f : α → α) : List α → List α
  | [] => []
  | a :: l => if key a = k then f a :: l else a :: amend key k f l

/-- The first entry of a chain with the key `k` is taken out. -/
def takeOut (key : α → κ) (k : κ) : List α → List α
  | [] => []
  | a :: l => if key a = k then l else a :: takeOut key k l

def lookup (hash : κ → Nat) (key : α → κ) (T : Nat → List α) (k : κ) : Option α :=
  find key k (T (hash k))

variable {hash : κ → Nat} {key : α → κ} {T : Nat → List α} {k j : κ} {f : α → α} {p : α → Bool} {a : α}
  {l : List α}

/-! ### Chains -/

theorem find_cons : find key j (a :: l) = if j = key a then some a else find key j l := by
  by_cases h : key a = j
  · simp [find, h]
  · simp [find, h, Ne.symm h]

theorem find_eq_none (h : k ∉ l.map key) : find key k l = none := by
  refine List.find?_eq_none.mpr fun a ha hk => h ?_
  simp only [decide_eq_true_eq] at hk
  exact List.mem_map.mpr ⟨a, ha, hk⟩

theorem map_amend (hf : ∀ a, key a = k → key (f a) = k) : (amend key k f l).map key = l.map key := by
  induction l with
  | nil => rfl
  | cons a l ih =>
    rw [amend]
    split
    · rename_i ha
      simp [ha, hf a ha]
    · simp [ih]

theorem find_amend (hf : ∀ a, key a = k → key (f a) = k) :
    find key j (amend key k f l) = if j = k then (find key k l).map f else find key j l := by
  induction l with
  | nil => simp [amend, find]
  | cons a l ih =>
    rw [amend, find_cons, find_cons]
    by_cases ha : key a = k
    · rw [if_pos ha, find_cons, hf a ha, ha]
      by_cases hj : j = k <;> simp [hj]
    · rw [if_neg ha, find_cons, ih]
      by_cases hj : j = k
      · subst hj
        simp [Ne.symm ha]
      · simp [hj]

theorem map_takeOut : (takeOut key k l).map key = (l.map key).erase k := by
  induction l with
  | nil => rfl
  | cons a l ih =>
    rw [takeOut, List.map_cons, List.erase_cons]
    by_cases ha : key a = k
    · simp [ha]
    · simp [ha, ih]

theorem find_takeOut (hl : (l.map key).Nodup) :
    find key j (takeOut key k l) = if j = k then none else find key j l := by
  induction l with
  | nil => simp [takeOut, find]
  | cons a l ih =>
    obtain ⟨hout, hl⟩ := List.nodup_cons.mp hl
    rw [takeOut, find_cons]
    by_cases ha : key a = k
    · subst ha
      rw [if_pos rfl]
      by_cases hj : j = key a
      · subst hj
        rw [if_pos rfl, find_eq_none hout]
      · rw [if_neg hj, if_neg hj]
    · rw [if_neg ha, find_cons, ih hl]
      by_cases hj : j = k
      · subst hj
        simp [Ne.symm ha]
      · simp [hj]

theorem find_filter (hl : (l.map key).Nodup) : find key k (l.filter p) = (find key k l).filter p := by
  induction l with
  | nil => rfl
  | cons a l ih =>
    obtain ⟨hout, hl⟩ := List.nodup_cons.mp hl
    rw [find_cons, List.filter_cons]
    by_cases hk : k = key a
    · subst hk
      by_cases hp : p a
      · simp [hp, find_cons, Option.filter]
      · simp [hp, ih hl, find_eq_none hout, Option.filter]
    · by_cases hp : p a <;> simp [hp, hk, find_cons, ih hl]

/-! ### Tables -/

theorem lookup_update : lookup hash key (Function.update T (hash k) l) j =
    if hash j = hash k then find key j l else lookup hash key T j := by
  by_cases h : hash j = hash k
  · rw [lookup, h, Function.update_self, if_pos rfl]
  · rw [lookup, Function.update_of_ne h, if_neg h, lookup]

theorem find_home (h : hash j = hash k) : find key j (T (hash k)) = lookup hash key T j := by
  rw [lookup, h]

theorem lookup_key (h : lookup hash key T k = some a) : key a = k := (find_some h).2

theorem Neat.cons (h : Neat hash key T) (hk : key a = k) (hnew : lookup hash key T k = none) :
    Neat hash key (Function.update T (hash k) (a :: T (hash k))) := by
  subst hk
  refine h.update (fun b hb => ?_) (List.nodup_cons.mpr ⟨fun hmem => ?_, h.nodup _⟩)
  · rcases List.mem_cons.mp hb with rfl | hb
    · rfl
    · exact h.home _ b hb
  · obtain ⟨b, hb, he⟩ := List.mem_map.mp hmem
    have := List.find?_eq_none.mp hnew b hb
    simp [he] at this

theorem lookup_cons (hk : key a = k) : lookup hash key (Function.update T (hash k) (a :: T (hash k))) j =
    if j = k then some a else lookup hash key T j := by
  rw [lookup_update, find_cons, hk]
  by_cases hj : j = k
  · subst hj
    simp
  · by_cases hh : hash j = hash k
    · simp [hj, hh, find_home hh]
    · simp [hj, hh]

theorem Neat.amend (h : Neat hash key T) (hf : ∀ a, key a = k → key (f a) = k) :
    Neat hash key (Function.update T (hash k) (amend key k f (T (hash k)))) := by
  refine h.update (fun a ha => h.home_keys (fun x hx => ?_) ha) ?_
  · rwa [map_amend hf] at hx
  · rw [map_amend hf]
    exact h.nodup _

theorem lookup_amend (hf : ∀ a, key a = k → key (f a) = k) :
    lookup hash key (Function.update T (hash k) (Dictionary.amend key k f (T (hash k)))) j =
      if j = k then (lookup hash key T k).map f else lookup hash key T j := by
  rw [lookup_update, find_amend hf]
  by_cases hj : j = k
  · subst hj
    simp [lookup]
  · by_cases hh : hash j = hash k
    · simp [hj, hh, find_home hh]
    · simp [hj, hh]

theorem Neat.takeOut (h : Neat hash key T) :
    Neat hash key (Function.update T (hash k) (takeOut key k (T (hash k)))) := by
  refine h.update (fun a ha => h.home_keys (fun x hx => ?_) ha) ?_
  · rw [map_takeOut] at hx
    exact List.mem_of_mem_erase hx
  · rw [map_takeOut]
    exact (h.nodup _).erase _

theorem lookup_takeOut (h : Neat hash key T) :
    lookup hash key (Function.update T (hash k) (Dictionary.takeOut key k (T (hash k)))) j =
      if j = k then none else lookup hash key T j := by
  rw [lookup_update, find_takeOut (h.nodup _)]
  by_cases hj : j = k
  · subst hj
    simp
  · by_cases hh : hash j = hash k
    · simp [hj, hh, find_home hh]
    · simp [hj, hh]

theorem lookup_sweep (h : Neat hash key T) :
    lookup hash key (fun i => (T i).filter p) k = (lookup hash key T k).filter p :=
  find_filter (h.nodup _)

end

end

end Dictionary
end Lib
end DaemonGroup
