import DaemonGroup.Lib.Tiling
import DaemonGroup.Wcpss.Protocol

/-!
# DaemonGroup.Wcpss.Reassembly

What the reassembly of `CWProtocolParseFragment` makes of any datagrams.

The function copies when the octets in its list are as many as the fragment flagged last promises. The
loop that copies goes from a fragment to the one `dataLen / 8` further on, so a fragment of less than
eight octets that is not flagged last holds it for ever, and one of several fragments flagged last may
end it early. Where neither is in the list, it ends, it stores no more than was allocated, and what it
returns is tiled by the fragments (`reassembly_robust`).
-/

namespace DaemonGroup
namespace Wcpss

open Lib

/-! ## The sizes -/

/-- Where the octets of a fragment begin in the message. -/
def CWProtocolFragment.start (f : CWProtocolFragment) : Nat := f.fragmentOffset * 8

section
variable {l : List CWProtocolFragment}

theorem totalSize_foldl {t a : Nat} (h : ∀ f ∈ l, f.last = 1 → f.start + f.dataLen = t) :
    l.foldl (fun size f => if f.last = 1 then f.fragmentOffset * 8 + f.dataLen else size) a =
      if ∃ f ∈ l, f.last = 1 then t else a := by
  induction l generalizing a with
  | nil => simp
  | cons f l ih =>
    rw [List.foldl_cons, ih fun g hg => h g (List.mem_cons_of_mem _ hg)]
    by_cases hl : ∃ g ∈ l, g.last = 1
    · have hl' : ∃ g ∈ f :: l, g.last = 1 := by
        obtain ⟨g, hg, h1⟩ := hl
        exact ⟨g, List.mem_cons_of_mem _ hg, h1⟩
      rw [if_pos hl, if_pos hl']
    · rw [if_neg hl]
      by_cases hf : f.last = 1
      · rw [if_pos hf, if_pos ⟨f, List.mem_cons_self, hf⟩]
        exact h f List.mem_cons_self hf
      · have hl' : ¬∃ g ∈ f :: l, g.last = 1 := by
          rintro ⟨g, hg, h1⟩
          rcases List.mem_cons.mp hg with rfl | hg
          · exact hf h1
          · exact hl ⟨g, hg, h1⟩
        rw [if_neg hf, if_neg hl']

/-- Where all the fragments flagged last end at `t`, this is the size, if there is one. -/
theorem totalSize_eq {t : Nat} (h : ∀ f ∈ l, f.last = 1 → f.start + f.dataLen = t) :
    totalSize l = if ∃ f ∈ l, f.last = 1 then t else 0 :=
  totalSize_foldl h

end

/-! ## The loop that copies -/

/-- The fragments `v` lead from the offset `a` to the offset `b`, the way the loop goes. -/
def Walk : Nat → List CWProtocolFragment → Nat → Prop
  | a, [], b => a = b
  | a, f :: v, b => f.fragmentOffset = a ∧ Walk (a + f.dataLen / 8) v b

section
variable {v l : List CWProtocolFragment} {a b : Nat} {f : CWProtocolFragment}

theorem Walk.snoc (h : Walk a v b) (hf : f.fragmentOffset = b) :
    Walk a (v ++ [f]) (b + f.dataLen / 8) := by
  induction v generalizing a with
  | nil =>
    obtain rfl : a = b := h
    exact ⟨hf, rfl⟩
  | cons g v ih => exact ⟨h.1, ih h.2⟩

/-- The fragments have at least the octets between the two offsets, and no more only if each begins
where the one before ends. -/
theorem Walk.sum (h : Walk a v b) : 8 * b ≤ 8 * a + currentSize v ∧
    (8 * a + currentSize v = 8 * b →
      Adjacent CWProtocolFragment.start CWProtocolFragment.dataLen (8 * a) v (8 * b)) := by
  induction v generalizing a with
  | nil =>
    obtain rfl : a = b := h
    exact ⟨by simp [currentSize], fun _ => rfl⟩
  | cons g v ih =>
    obtain ⟨hg, hv⟩ := h
    obtain ⟨hle, hadj⟩ := ih hv
    have hsum : currentSize (g :: v) = g.dataLen + currentSize v := by simp [currentSize]
    refine ⟨by omega, fun heq => ⟨by simp only [CWProtocolFragment.start]; omega, ?_⟩⟩
    have hlen : 8 * a + g.dataLen = 8 * (a + g.dataLen / 8) := by omega
    rw [hlen]
    exact hadj (by omega)

/-- Where every fragment moves the loop on, the offsets grow. -/
theorem Walk.offsets (h : Walk a v b) (h8 : ∀ g ∈ v, 8 ≤ g.dataLen) :
    a ≤ b ∧ (∀ g ∈ v, a ≤ g.fragmentOffset ∧ g.fragmentOffset < b) ∧ v.Nodup := by
  induction v generalizing a with
  | nil =>
    obtain rfl : a = b := h
    exact ⟨Nat.le_refl a, by simp, List.nodup_nil⟩
  | cons g v ih =>
    obtain ⟨hg, hv⟩ := h
    have hpos := h8 g List.mem_cons_self
    obtain ⟨hab, hin, hnd⟩ := ih hv fun x hx => h8 x (List.mem_cons_of_mem _ hx)
    refine ⟨by omega, fun x hx => ?_, List.nodup_cons.mpr ⟨fun hmem => ?_, hnd⟩⟩
    · rcases List.mem_cons.mp hx with rfl | hx
      · omega
      · have := hin x hx
        omega
    · have := hin g hmem
      omega

/-- The loop has copied the fragments `v`, in this order. -/
structure Copied (l : List CWProtocolFragment) (size : Nat) (v : List CWProtocolFragment)
    (c : Copy) : Prop where
  mem : ∀ f ∈ v, f ∈ l
  last : ∀ f ∈ v, f.last ≠ 1
  walk : Walk 0 v c.currentOffset
  size_eq : c.reassembledMsg.size = size
  bytes : c.reassembledMsg.bytes = v.flatMap (·.data)

/-- The three ways a turn of the loop ends. -/
theorem copyStep_cases {c : Copy} {size : Nat} (h : Copied l size v c) :
    (∃ e, copyStep l c = .inr (.error e)) ∨
    (∃ f ∈ l, f.fragmentOffset = c.currentOffset ∧ f.last = 1 ∧
      copyStep l c = .inr (.ok { size := size, bytes := (v ++ [f]).flatMap (·.data) })) ∨
    (∃ f ∈ l, ∃ c', f.last ≠ 1 ∧ copyStep l c = .inl c' ∧ Copied l size (v ++ [f]) c') := by
  unfold copyStep
  cases hfind : l.find? (fun f => f.fragmentOffset == c.currentOffset) with
  | none => exact .inl ⟨_, rfl⟩
  | some f =>
    right
    have hmem := List.mem_of_find?_eq_some hfind
    have hoff : f.fragmentOffset = c.currentOffset := by simpa using List.find?_some hfind
    have hbytes : (cwProtocolStoreRawBytes c.reassembledMsg f.data).bytes =
        (v ++ [f]).flatMap (·.data) := by simp [cwProtocolStoreRawBytes, h.bytes]
    by_cases hlast : f.last = 1
    · refine .inl ⟨f, hmem, hoff, hlast, ?_⟩
      simp only [hlast, if_true]
      rw [← hbytes, ← h.size_eq]
      rfl
    · refine .inr ⟨f, hmem, _, hlast, if_neg hlast, ?_⟩
      refine ⟨fun g hg => ?_, fun g hg => ?_, h.walk.snoc hoff, h.size_eq, hbytes⟩
      · rcases List.mem_append.mp hg with hg | hg
        · exact h.mem g hg
        · simp only [List.mem_singleton] at hg
          rwa [hg]
      · rcases List.mem_append.mp hg with hg | hg
        · exact h.last g hg
        · simp only [List.mem_singleton] at hg
          rwa [hg]

/-- Where the loop is after at most `n` turns: it goes on and has copied `n` fragments more, or it
has returned. -/
theorem copyLoop_cases {n size : Nat} {c : Copy} (h : Copied l size v c) :
    (∃ v' c', copyLoop l n c = .inl c' ∧ Copied l size v' c' ∧ v'.length = v.length + n) ∨
    (∃ e, copyLoop l n c = .inr (.error e)) ∨
    (∃ v' c', ∃ f ∈ l, Copied l size v' c' ∧ f.fragmentOffset = c'.currentOffset ∧ f.last = 1 ∧
      copyLoop l n c = .inr (.ok { size := size, bytes := (v' ++ [f]).flatMap (·.data) })) := by
  induction n generalizing v c with
  | zero => exact .inl ⟨v, c, rfl, h, rfl⟩
  | succ n ih =>
    rcases copyStep_cases h with ⟨e, he⟩ | ⟨f, hf, hoff, hlast, hret⟩ | ⟨f, _, c', _, hstep, hc'⟩
    · exact .inr (.inl ⟨e, by simp only [copyLoop, he]⟩)
    · exact .inr (.inr ⟨v, c, f, hf, h, hoff, hlast, by simp only [copyLoop, hret]⟩)
    · simp only [copyLoop, hstep]
      rcases ih hc' with ⟨v', d, hd, hcop, hlen⟩ | hrest
      · refine .inl ⟨v', d, hd, hcop, ?_⟩
        simp only [List.length_append, List.length_singleton] at hlen
        omega
      · exact .inr hrest

end

/-! ## Lists that can be put together -/

/-- No fragment holds the loop, and one at most ends it. -/
structure Sound (l : List CWProtocolFragment) : Prop where
  moves : ∀ f ∈ l, f.last ≠ 1 → 8 ≤ f.dataLen
  last : ∀ f ∈ l, ∀ g ∈ l, f.last = 1 → g.last = 1 → f = g

section
variable {l v : List CWProtocolFragment} {size : Nat} {c : Copy} {f : CWProtocolFragment}

theorem length_flatMap_data : (v.flatMap (·.data)).length = currentSize v := by
  rw [List.length_flatMap]
  rfl

theorem Copied.subperm (h : Copied l size v c) (hs : Sound l) : v.Subperm l :=
  (h.walk.offsets fun g hg => hs.moves g (h.mem g hg) (h.last g hg)).2.2.subperm h.mem

/-- The fragment at the offset the loop has come to was not copied yet. -/
theorem Copied.snoc_subperm (h : Copied l size v c) (hs : Sound l) (hf : f ∈ l)
    (hoff : f.fragmentOffset = c.currentOffset) : (v ++ [f]).Subperm l := by
  obtain ⟨_, hin, hnd⟩ :=
    h.walk.offsets fun g hg => hs.moves g (h.mem g hg) (h.last g hg)
  refine List.Nodup.subperm (List.nodup_append.mpr ⟨hnd, by simp, ?_⟩) ?_
  · rintro x hx y hy rfl
    obtain rfl : x = f := by simpa using hy
    have := hin x hx
    omega
  · intro x hx
    rcases List.mem_append.mp hx with hx | hx
    · exact h.mem x hx
    · simp only [List.mem_singleton] at hx
      rwa [hx]

/-- What is returned: the fragments copied tile the message, and there is nothing in the others. -/
theorem Copied.tiles (h : Copied l size v c) (hs : Sound l) (hf : f ∈ l)
    (hoff : f.fragmentOffset = c.currentOffset) (hlast : f.last = 1)
    (hcur : currentSize l = size) (htotal : totalSize l = size) :
    Tiles CWProtocolFragment.start CWProtocolFragment.dataLen l size ∧
      ((v ++ [f]).flatMap (·.data)).length = size := by
  have hsub := h.snoc_subperm hs hf hoff
  have hle : currentSize (v ++ [f]) ≤ currentSize l := sum_le_of_subperm hsub
  have hsnoc : currentSize (v ++ [f]) = currentSize v + f.dataLen := by simp [currentSize]
  have hend : f.start + f.dataLen = size := by
    rw [← htotal, totalSize_eq fun g hg h1 => by rw [hs.last g hg f hf h1 hlast],
      if_pos ⟨f, hf, hlast⟩]
  obtain ⟨hge, hadj⟩ := h.walk.sum
  have hstart : f.start = 8 * c.currentOffset := by
    rw [CWProtocolFragment.start, hoff, Nat.mul_comm]
  have hv : 8 * 0 + currentSize v = 8 * c.currentOffset := by omega
  have hall : currentSize (v ++ [f]) = currentSize l := by omega
  obtain ⟨t, hperm, hempty⟩ := exists_rest hsub hall
  have hline : Adjacent CWProtocolFragment.start CWProtocolFragment.dataLen 0 (v ++ [f]) size :=
    (hadj hv).append ⟨hstart, show _ = _ by omega⟩
  refine ⟨(hline.tiles.append_empty hempty).perm hperm.symm, ?_⟩
  rw [length_flatMap_data, hall, hcur]

end

/-! ## Calls -/

/-- A call of `CWProtocolParseFragment`: the datagram, and what memory there is. -/
structure Call where
  mem : ParseAlloc → Bool
  buf : Nat → UInt8
  readBytes : Nat

/-- The call up to the loop that copies. -/
def Call.entry (d : Call) (l : List CWProtocolFragment) : Entry :=
  parseEntry d.mem d.buf d.readBytes l

def Call.parse (d : Call) (n : Nat) (l : List CWProtocolFragment) : Option Parsed :=
  cwProtocolParseFragment n d.mem d.buf d.readBytes l

/-- The loop that copies, after at most `n` turns. -/
def copying (size : Nat) (l : List CWProtocolFragment) (n : Nat) :
    Copy ⊕ Except CWError CWProtocolMessage :=
  copyLoop l n { currentOffset := 0, reassembledMsg := { size := size } }

/-- The octets stored so far. -/
def stored : Copy ⊕ Except CWError CWProtocolMessage → Nat
  | .inl c => c.reassembledMsg.offset
  | .inr (.ok m) => m.offset
  | .inr (.error _) => 0

/-- The fragment in the datagram, if it is one. -/
def Call.fragment (d : Call) : Option CWProtocolFragment :=
  match cwParseTransportHeader (d.mem .binding) d.buf with
  | .error _ => none
  | .ok h => if h.values.isFragment = 0 then none else some (fragmentOf d.buf d.readBytes h)

/-- The fragment and those of the list with its ID. -/
def withFragment (f : CWProtocolFragment) (l : List CWProtocolFragment) : List CWProtocolFragment :=
  f :: l.filter fun g => g.fragmentID = f.fragmentID

/-- What the code does not look at: when a fragment that is not a copy makes the octets as many as
the fragment flagged last promises, no fragment holds the loop and one at most ends it. -/
def Call.Meets (d : Call) (l : List CWProtocolFragment) : Prop :=
  ∀ f, d.fragment = some f → l.any (cwCompareFragment f) = false →
    totalSize (withFragment f l) ≠ 0 →
    currentSize (withFragment f l) = totalSize (withFragment f l) → Sound (withFragment f l)

/-- The lists left by calls that meet the condition, from the empty one on. -/
inductive Reached : List CWProtocolFragment → Prop where
  | nil : Reached []
  | call {l : List CWProtocolFragment} {d : Call} {n : Nat} {p : Parsed} :
      Reached l → d.Meets l → d.parse n l = some p → Reached p.list

/-- The call ends, it stores no more than it allocated, and what it puts together is tiled by the
fragments in the list. A datagram that is no fragment is stored whole. -/
structure Robust (d : Call) (l : List CWProtocolFragment) : Prop where
  ends : ∃ n, (d.parse n l).isSome
  bounded : ∀ size l' n, d.entry l = .copy size l' → stored (copying size l' n) ≤ size
  tiles : ∀ size l' n p m, d.entry l = .copy size l' → d.parse n l = some p → p.ret = .ok m →
    Tiles CWProtocolFragment.start CWProtocolFragment.dataLen l' size ∧ m.offset = size
  single : ∀ m l', d.entry l = .ret (.ok m) l' → m.offset = m.size

section
variable {d : Call} {l l' : List CWProtocolFragment} {size : Nat}

/-- The list holds fragments of one message. -/
def OneId (l : List CWProtocolFragment) : Prop := ∀ f ∈ l, ∀ g ∈ l, f.fragmentID = g.fragmentID

theorem OneId.withFragment {f : CWProtocolFragment} : OneId (withFragment f l) := by
  have hid : ∀ g ∈ Wcpss.withFragment f l, g.fragmentID = f.fragmentID := by
    intro g hg
    rcases List.mem_cons.mp hg with rfl | hg
    · rfl
    · simpa using (List.mem_filter.mp hg).2
  intro g hg g' hg'
  rw [hid g hg, hid g' hg']

theorem checkFragments_cases (mem : ParseAlloc → Bool) (l : List CWProtocolFragment) :
    (∃ e, checkFragments mem l = .ret (.error e) l) ∨
    (totalSize l ≠ 0 ∧ currentSize l = totalSize l ∧
      checkFragments mem l = .copy (totalSize l) l) := by
  unfold checkFragments
  split
  · exact .inl ⟨_, rfl⟩
  · rename_i h0
    split
    · exact .inl ⟨_, rfl⟩
    · rename_i h1
      split
      · exact .inr ⟨h0, not_not.mp h1, rfl⟩
      · exact .inl ⟨_, rfl⟩

theorem addFragment_cases (mem : ParseAlloc → Bool) (dataLen : Int) (f : CWProtocolFragment)
    (l : List CWProtocolFragment) :
    (∃ e l', addFragment mem dataLen f l = .ret (.error e) l' ∧ (l' = [] ∨ l' = l ∨ l' = f :: l)) ∨
    (totalSize (f :: l) ≠ 0 ∧ currentSize (f :: l) = totalSize (f :: l) ∧
      addFragment mem dataLen f l = .copy (totalSize (f :: l)) (f :: l)) := by
  unfold addFragment
  split
  · split
    · rcases checkFragments_cases mem (f :: l) with ⟨e, he⟩ | h
      · exact .inl ⟨e, _, he, .inr (.inr rfl)⟩
      · exact .inr h
    · exact .inl ⟨_, _, rfl, .inl rfl⟩
  · exact .inl ⟨_, _, rfl, .inr (.inl rfl)⟩

/-- All the ways a call can go up to the loop that copies. -/
theorem Call.entry_cases (d : Call) (h : OneId l) :
    (∃ m, d.entry l = .ret (.ok m) l ∧ m.offset = m.size) ∨
    (∃ e l', d.entry l = .ret (.error e) l' ∧ OneId l') ∨
    (∃ f, d.fragment = some f ∧ l.any (cwCompareFragment f) = false ∧
      totalSize (withFragment f l) ≠ 0 ∧
      currentSize (withFragment f l) = totalSize (withFragment f l) ∧
      d.entry l = .copy (totalSize (withFragment f l)) (withFragment f l)) := by
  unfold Call.entry Call.fragment parseEntry
  cases hh : cwParseTransportHeader (d.mem .binding) d.buf with
  | error e => exact .inr (.inl ⟨e, l, rfl, h⟩)
  | ok hd =>
    dsimp only
    by_cases hfrag : hd.values.isFragment = 0
    · rw [if_pos hfrag]
      split
      · exact .inl ⟨_, rfl, by simp [CWProtocolMessage.offset, cwProtocolStoreRawBytes]⟩
      · exact .inr (.inl ⟨_, l, rfl, h⟩)
    · rw [if_neg hfrag, if_neg hfrag]
      generalize hf : fragmentOf d.buf d.readBytes hd = f
      -- the list the fragment is added to is the part of `l` with its ID
      have hadd : ∀ k, f :: k = withFragment f l → OneId k → l.any (cwCompareFragment f) = false →
          ∀ x, addFragment d.mem (d.readBytes - hd.offset) f k = x →
          (∃ e l', x = .ret (.error e) l' ∧ OneId l') ∨
          (totalSize (withFragment f l) ≠ 0 ∧
            currentSize (withFragment f l) = totalSize (withFragment f l) ∧
            x = .copy (totalSize (withFragment f l)) (withFragment f l)) := by
        rintro k hk hid hany x rfl
        rcases addFragment_cases d.mem (d.readBytes - hd.offset) f k with
          ⟨e, l', he, rfl | rfl | rfl⟩ | hcopy
        · exact .inl ⟨e, [], he, by simp [OneId]⟩
        · exact .inl ⟨e, _, he, hid⟩
        · exact .inl ⟨e, _, he, hk ▸ OneId.withFragment⟩
        · exact .inr (hk ▸ hcopy)
      by_cases hmem : d.mem .fragment
      · rw [if_pos hmem]
        cases l with
        | nil =>
          rcases hadd [] rfl (by simp [OneId]) rfl _ rfl with hret | hcopy
          · exact .inr (.inl hret)
          · exact .inr (.inr ⟨f, rfl, rfl, hcopy⟩)
        | cons g rest =>
          dsimp only
          by_cases hid : g.fragmentID = f.fragmentID
          · rw [if_pos hid]
            cases hany : (g :: rest).any (cwCompareFragment f) with
            | true => exact .inr (.inl ⟨_, _, if_pos rfl, h⟩)
            | false =>
              have hall : (g :: rest).filter (fun x => x.fragmentID = f.fragmentID) = g :: rest := by
                refine List.filter_eq_self.mpr fun x hx => ?_
                simpa [hid] using h x hx g List.mem_cons_self
              have hk : f :: (g :: rest) = withFragment f (g :: rest) := by
                rw [withFragment, hall]
              rcases hadd _ hk h hany _ rfl with hret | hcopy
              · exact .inr (.inl (by simpa using hret))
              · exact .inr (.inr ⟨f, rfl, hany, by simpa using hcopy⟩)
          · rw [if_neg hid]
            have hne : ∀ x ∈ g :: rest, x.fragmentID ≠ f.fragmentID := fun x hx =>
              h x hx g List.mem_cons_self ▸ hid
            have hnone : (g :: rest).filter (fun x => x.fragmentID = f.fragmentID) = [] := by
              refine List.filter_eq_nil_iff.mpr fun x hx => ?_
              simpa using hne x hx
            have hany : (g :: rest).any (cwCompareFragment f) = false := by
              refine List.any_eq_false.mpr fun x hx => ?_
              simp [cwCompareFragment, (hne x hx).symm]
            have hk : [f] = withFragment f (g :: rest) := by rw [withFragment, hnone]
            rcases hadd [] hk (by simp [OneId]) hany _ rfl with hret | hcopy
            · exact .inr (.inl hret)
            · exact .inr (.inr ⟨f, rfl, hany, hcopy⟩)
      · rw [if_neg hmem]
        exact .inr (.inl ⟨_, l, rfl, h⟩)

theorem Reached.oneId (h : Reached l) : OneId l := by
  induction h with
  | nil => simp [OneId]
  | @call l d n p _ _ hp ih =>
    rw [Call.parse, cwProtocolParseFragment] at hp
    rcases Call.entry_cases d ih with ⟨m, he, _⟩ | ⟨e, l', he, hl'⟩ | ⟨f, _, _, _, _, he⟩
    all_goals rw [Call.entry] at he; simp only [he] at hp
    · obtain rfl := Option.some.inj hp
      exact ih
    · obtain rfl := Option.some.inj hp
      exact hl'
    · split at hp
      · cases hp
      · obtain rfl := Option.some.inj hp
        simp [OneId]

/-- The loop that copies, on a list that can be put together. -/
theorem Sound.copying (hs : Sound l) (hcur : currentSize l = size) (htotal : totalSize l = size) :
    (∃ r, copying size l (l.length + 1) = .inr r) ∧
    (∀ n, stored (copying size l n) ≤ size) ∧
    (∀ n m, copying size l n = .inr (.ok m) →
      Tiles CWProtocolFragment.start CWProtocolFragment.dataLen l size ∧ m.offset = size) := by
  have h0 : Copied l size [] { currentOffset := 0, reassembledMsg := { size := size } } :=
    ⟨by simp, by simp, rfl, rfl, rfl⟩
  refine ⟨?_, fun n => ?_, fun n m hm => ?_⟩
  · rcases copyLoop_cases (n := l.length + 1) h0 with ⟨v, c, _, hc, hlen⟩ | ⟨e, he⟩ |
      ⟨v, c, f, _, _, _, _, hret⟩
    · -- more turns than there are fragments
      have := (hc.subperm hs).length_le
      simp only [List.length_nil] at hlen
      omega
    · exact ⟨_, he⟩
    · exact ⟨_, hret⟩
  · rcases copyLoop_cases (n := n) h0 with ⟨v, c, hin, hc, _⟩ | ⟨e, he⟩ |
      ⟨v, c, f, hf, hc, hoff, hlast, hret⟩
    · have hle : currentSize v ≤ currentSize l := sum_le_of_subperm (hc.subperm hs)
      rw [Wcpss.copying, hin, stored, CWProtocolMessage.offset, hc.bytes, length_flatMap_data]
      omega
    · rw [Wcpss.copying, he, stored]
      exact Nat.zero_le _
    · rw [Wcpss.copying, hret, stored]
      exact Nat.le_of_eq (hc.tiles hs hf hoff hlast hcur htotal).2
  · rcases copyLoop_cases (n := n) h0 with ⟨v, c, hin, hc, _⟩ | ⟨e, he⟩ |
      ⟨v, c, f, hf, hc, hoff, hlast, hret⟩
    · rw [Wcpss.copying, hin] at hm
      cases hm
    · rw [Wcpss.copying, he] at hm
      cases hm
    · rw [Wcpss.copying, hret] at hm
      obtain rfl := Except.ok.inj (Sum.inr.inj hm)
      exact hc.tiles hs hf hoff hlast hcur htotal

/-- A call that comes to the loop that copies returns what the loop ends with. -/
theorem Call.parse_copy {size : Nat} {l' : List CWProtocolFragment} (he : d.entry l = .copy size l')
    (n : Nat) : d.parse n l = match copying size l' n with
      | .inl _ => none
      | .inr r => some { ret := r, list := [], dataFlag := dataFlag d.buf } := by
  rw [Call.parse, cwProtocolParseFragment]
  rw [Call.entry] at he
  simp only [he]
  rfl

/-- In every run whose calls all meet the condition, every call ends, stores no more than it
allocated, and returns only what the fragments in its list tile. -/
theorem reassembly_robust (hl : Reached l) (hd : d.Meets l) : Robust d l := by
  rcases Call.entry_cases d hl.oneId with ⟨m, he, hm⟩ | ⟨e, l', he, _⟩ |
    ⟨f, hf, hany, h0, hcur, he⟩
  · refine ⟨⟨0, ?_⟩, fun size l' n h => ?_, fun size l' n p m' h => ?_, fun m' l' h => ?_⟩
    · rw [Call.parse, cwProtocolParseFragment]
      rw [Call.entry] at he
      simp [he]
    · cases he.symm.trans h
    · cases he.symm.trans h
    · obtain ⟨hr, -⟩ := Entry.ret.inj (he.symm.trans h)
      exact Except.ok.inj hr ▸ hm
  · refine ⟨⟨0, ?_⟩, fun size l' n h => ?_, fun size l' n p m' h => ?_, fun m' l' h => ?_⟩
    · rw [Call.parse, cwProtocolParseFragment]
      rw [Call.entry] at he
      simp [he]
    · cases he.symm.trans h
    · cases he.symm.trans h
    · obtain ⟨hr, -⟩ := Entry.ret.inj (he.symm.trans h)
      cases hr
  · have hs := hd f hf hany h0 hcur
    obtain ⟨hend, hbound, htile⟩ := hs.copying hcur rfl
    have hparse := Call.parse_copy he
    refine ⟨?_, fun size l' n h => ?_, fun size l' n p m h hp hm => ?_, fun m l' h => ?_⟩
    · obtain ⟨r, hr⟩ := hend
      exact ⟨_, by rw [hparse, hr]; rfl⟩
    · obtain ⟨rfl, rfl⟩ := Entry.copy.inj (he.symm.trans h)
      exact hbound n
    · obtain ⟨rfl, rfl⟩ := Entry.copy.inj (he.symm.trans h)
      rw [hparse n] at hp
      cases hc : copying (totalSize (withFragment f l)) (withFragment f l) n with
      | inl c =>
        rw [hc] at hp
        cases hp
      | inr r =>
        rw [hc] at hp
        obtain rfl := Option.some.inj hp
        dsimp only at hm
        rw [hm] at hc
        exact htile n m hc
    · cases he.symm.trans h

end

/-- A datagram with the fragment of the octets `data`, as `CWAssembleMessage` would send it. -/
def sampleCall (fragID offset : Nat) (last : Bool) (data : Bytes) : Call where
  mem := fun _ => true
  buf := fun i =>
    ((cwProtocolStore32 (cwProtocolStore32 { size := 8 }
      (transportWord1 (fragmentValues (BitVec.ofNat 32 fragID) 0 (8 * offset) last)))
      (transportWord2 (fragmentValues (BitVec.ofNat 32 fragID) 0 (8 * offset) last))).bytes ++
        data).getD i 0
  readBytes := 8 + data.length

/-- Two fragments of a message of twelve octets, the last one first. -/
theorem reassembly_robust_sample :
    Reached [⟨7, 1, 1, [8, 9, 10, 11]⟩] ∧
      Robust (sampleCall 7 0 false [0, 1, 2, 3, 4, 5, 6, 7]) [⟨7, 1, 1, [8, 9, 10, 11]⟩] := by
  have hlast : (sampleCall 7 1 true [8, 9, 10, 11]).fragment = some ⟨7, 1, 1, [8, 9, 10, 11]⟩ := by
    decide
  have hfirst : (sampleCall 7 0 false [0, 1, 2, 3, 4, 5, 6, 7]).fragment =
      some ⟨7, 0, 0, [0, 1, 2, 3, 4, 5, 6, 7]⟩ := by decide
  have hr : Reached [⟨7, 1, 1, [8, 9, 10, 11]⟩] := by
    refine Reached.call (d := sampleCall 7 1 true [8, 9, 10, 11]) (n := 0)
      (p := ⟨.error { code := .NEED_RESOURCE }, [⟨7, 1, 1, [8, 9, 10, 11]⟩], false⟩) .nil ?_
      (by decide)
    intro f hf _ _ hcur
    obtain rfl := Option.some.inj (hlast.symm.trans hf)
    exact absurd hcur (by decide)
  refine ⟨hr, reassembly_robust hr fun f hf _ _ _ => ?_⟩
  obtain rfl := Option.some.inj (hfirst.symm.trans hf)
  have hw : withFragment ⟨7, 0, 0, [0, 1, 2, 3, 4, 5, 6, 7]⟩ [⟨7, 1, 1, [8, 9, 10, 11]⟩] =
      [⟨7, 0, 0, [0, 1, 2, 3, 4, 5, 6, 7]⟩, ⟨7, 1, 1, [8, 9, 10, 11]⟩] := by decide
  rw [hw]
  exact ⟨by decide, by decide⟩

/-- A fragment of less than eight octets that is not flagged last holds the loop that copies. -/
theorem copyLoop_held {l : List CWProtocolFragment} {a : Nat} {f : CWProtocolFragment}
    (hf : l.find? (fun f => f.fragmentOffset == a) = some f) (hlast : f.last ≠ 1)
    (hlen : f.dataLen < 8) (n : Nat) (m : CWProtocolMessage) :
    ∃ m', copyLoop l n ⟨a, m⟩ = .inl ⟨a, m'⟩ := by
  induction n generalizing m with
  | zero => exact ⟨m, rfl⟩
  | succ n ih =>
    have hstep : copyStep l ⟨a, m⟩ = .inl ⟨a, cwProtocolStoreRawBytes m f.data⟩ := by
      unfold copyStep
      rw [hf]
      simp [hlast, Nat.div_eq_of_lt hlen]
    simp only [copyLoop, hstep]
    exact ih _

/-- A fragment of four octets at offset 0, another at 5 and the last one at 1: the call that gets the
last one never returns, and stores twelve octets into eleven. -/
theorem reassembly_hangs :
    let first := sampleCall 7 0 false [1, 2, 3, 4]
    let other := sampleCall 7 5 false [5, 6, 7, 8]
    let last := sampleCall 7 1 true [9, 10, 11]
    ∃ l₁ l₂, first.parse 0 [] = some ⟨.error { code := .NEED_RESOURCE }, l₁, false⟩ ∧
      other.parse 0 l₁ = some ⟨.error { code := .NEED_RESOURCE }, l₂, false⟩ ∧
      (∀ n, last.parse n l₂ = none) ∧
      ∃ l₃, last.entry l₂ = .copy 11 l₃ ∧ stored (copying 11 l₃ 3) = 12 := by
  refine ⟨[⟨7, 0, 0, [1, 2, 3, 4]⟩], [⟨7, 5, 0, [5, 6, 7, 8]⟩, ⟨7, 0, 0, [1, 2, 3, 4]⟩],
    by decide, by decide, fun n => ?_,
    [⟨7, 1, 1, [9, 10, 11]⟩, ⟨7, 5, 0, [5, 6, 7, 8]⟩, ⟨7, 0, 0, [1, 2, 3, 4]⟩],
    by decide, by decide⟩
  have he : (sampleCall 7 1 true [9, 10, 11]).entry
      [⟨7, 5, 0, [5, 6, 7, 8]⟩, ⟨7, 0, 0, [1, 2, 3, 4]⟩] =
      .copy 11 [⟨7, 1, 1, [9, 10, 11]⟩, ⟨7, 5, 0, [5, 6, 7, 8]⟩, ⟨7, 0, 0, [1, 2, 3, 4]⟩] := by
    decide
  obtain ⟨m', hm'⟩ := copyLoop_held (a := 0) (f := ⟨7, 0, 0, [1, 2, 3, 4]⟩)
    (l := [⟨7, 1, 1, [9, 10, 11]⟩, ⟨7, 5, 0, [5, 6, 7, 8]⟩, ⟨7, 0, 0, [1, 2, 3, 4]⟩])
    (by decide) (by decide) (by decide) n { size := 11 }
  rw [Call.entry] at he
  rw [Call.parse, cwProtocolParseFragment]
  simp only [he, hm']

end Wcpss
end DaemonGroup
