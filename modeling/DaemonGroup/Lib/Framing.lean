import Mathlib.Data.List.Infix

/-!
# DaemonGroup.Lib.Framing

Frames that tell their own length. A `Code` reads the length of a frame off its header; a frame is a
list of at least a header that is as long as it says. No frame is the beginning of another, so a
stream of frames can be cut up in one way only, however it was split on the way:

* `Code.flatten_prefix` — frames whose octets begin the octets of others are the first of these.
* `Code.next_size`, `Code.next_frame` — what a reader finds behind the frames it has taken.
-/

namespace DaemonGroup
namespace Lib

/-- How the length of a frame is read off its header. -/
structure Code (α : Type) where
  header : Nat
  size : List α → Nat
  pos : 0 < header
  read : ∀ l l', header ≤ l.length → l <+: l' → size l' = size l

namespace Code

variable {α : Type} {C : Code α} {f g l buf : List α} {fs gs : List (List α)}

/-- As long as it says. -/
structure IsFrame (C : Code α) (f : List α) : Prop where
  header : C.header ≤ f.length
  size : C.size f = f.length

theorem IsFrame.size_of_start (h : C.IsFrame f) (hp : f <+: l) : C.size l = f.length :=
  (C.read f l h.header hp).trans h.size

/-- Two frames that begin the same list are the same. -/
theorem IsFrame.unique (hf : C.IsFrame f) (hg : C.IsFrame g) (hfl : f <+: l) (hgl : g <+: l) :
    f = g := by
  have hlen : f.length = g.length := (hf.size_of_start hfl).symm.trans (hg.size_of_start hgl)
  exact List.IsPrefix.eq_of_length (List.prefix_of_prefix_length_le hfl hgl hlen.le) hlen

/-- What is left when the frames `fs` are taken off a stream of frames. -/
theorem rest_prefix (hf : ∀ f ∈ fs, C.IsFrame f) (hg : ∀ g ∈ gs, C.IsFrame g)
    (h : fs.flatten ++ buf <+: gs.flatten) : ∃ rest, gs = fs ++ rest ∧ buf <+: rest.flatten := by
  induction fs generalizing gs with
  | nil => exact ⟨gs, rfl, by simpa using h⟩
  | cons f fs ih =>
    rw [List.flatten_cons, List.append_assoc] at h
    cases gs with
    | nil =>
      -- a frame is not empty
      have hlen := h.length_le
      have := (hf f List.mem_cons_self).header
      have := C.pos
      simp only [List.length_append, List.flatten_nil, List.length_nil] at hlen
      omega
    | cons g gs =>
      rw [List.flatten_cons] at h
      obtain rfl : f = g := (hf f List.mem_cons_self).unique (hg g List.mem_cons_self)
        ((List.prefix_append f _).trans h) (List.prefix_append g _)
      rw [List.prefix_append_right_inj] at h
      obtain ⟨rest, rfl, hrest⟩ := ih (fun f' h' => hf f' (List.mem_cons_of_mem _ h'))
        (fun g' h' => hg g' (List.mem_cons_of_mem _ h')) h
      exact ⟨rest, rfl, hrest⟩

/-- Frames whose octets begin the octets of the frames `gs` are the first of these. -/
theorem flatten_prefix (hf : ∀ f ∈ fs, C.IsFrame f) (hg : ∀ g ∈ gs, C.IsFrame g)
    (h : fs.flatten <+: gs.flatten) : fs <+: gs := by
  have h' : fs.flatten ++ [] <+: gs.flatten := by simpa using h
  obtain ⟨rest, rfl, -⟩ := rest_prefix hf hg h'
  exact List.prefix_append fs rest

/-- Behind the frames `fs`, a header says the length of one of the frames of the stream. -/
theorem next_size (hf : ∀ f ∈ fs, C.IsFrame f) (hg : ∀ g ∈ gs, C.IsFrame g)
    (h : fs.flatten ++ buf <+: gs.flatten) (hb : C.header ≤ buf.length) :
    ∃ g ∈ gs, C.size buf = g.length := by
  obtain ⟨rest, rfl, hrest⟩ := rest_prefix hf hg h
  cases rest with
  | nil =>
    have hlen := hrest.length_le
    have := C.pos
    simp only [List.flatten_nil, List.length_nil] at hlen
    omega
  | cons g rest =>
    have hmem : g ∈ fs ++ g :: rest := List.mem_append_right _ List.mem_cons_self
    refine ⟨g, hmem, ?_⟩
    rw [← C.read buf _ hb hrest, List.flatten_cons]
    exact (hg g hmem).size_of_start (List.prefix_append g _)

/-- What a header says, taken off the front, is a frame. -/
theorem next_frame (hb : C.header ≤ C.size buf) (hl : C.size buf ≤ buf.length) :
    C.IsFrame (buf.take (C.size buf)) := by
  have hlen : (buf.take (C.size buf)).length = C.size buf := by
    rw [List.length_take, Nat.min_eq_left hl]
  have hhead : C.header ≤ (buf.take (C.size buf)).length := by
    rw [hlen]
    exact hb
  refine ⟨hhead, ?_⟩
  rw [hlen]
  exact (C.read _ buf hhead (List.take_prefix _ _)).symm

end Code

end Lib
end DaemonGroup
