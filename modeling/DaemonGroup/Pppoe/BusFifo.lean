import DaemonGroup.Pppoe.Bus
import Mathlib.Data.Finset.Card

/-!
# DaemonGroup.Pppoe.BusFifo

The queues of the thread bus deliver every message once and in order, as long as the steps are
`Safe`; a reply taken out as the last of several messages leaves `tail` behind.

* `Inv` — the queues and batches of all connections, as lists of messages that share no message.
* `add_inv`, `get_inv`, `pop_inv`, `unlink_inv`, `free_inv` — the operations keep the invariant.
* `bus_in_order` — every run of safe steps keeps all queues in order.
* `bus_loses` — a run in which a reply is taken out as the last of two messages loses a message.
-/

namespace DaemonGroup
namespace Bus

open Lib

/-! ## The two loops -/

/-- What `message_queue_get` leaves: the first messages for the caller, the others on the queue. -/
theorem getLoop_spec {len : Nat} (hlen : 0 < len) {next : Nat → Nat} {q : Queue} {l : List Nat}
    (hl : l ≠ []) (hc : Chain next q.head l 0) (hn : l.Nodup) (h0 : 0 ∉ l) :
    ∃ b r, l = b ++ r ∧ Chain (getLoop len next q).1 q.head b 0 ∧
      Chain (getLoop len next q).1 (getLoop len next q).2.head r 0 ∧
      (getLoop len next q).2.tail = (if r = [] then 0 else q.tail) ∧
      ∀ x ∉ l, (getLoop len next q).1 x = next x := by
  induction len generalizing q l with
  | zero => omega
  | succ len ih =>
    cases l with
    | nil => exact absurd rfl hl
    | cons m l =>
      obtain ⟨hhead, hrest⟩ := hc
      have hml : m ∉ l := (List.nodup_cons.mp hn).1
      unfold getLoop
      dsimp only
      rw [hhead]
      split
      case isTrue hz =>
        -- the last message of the queue
        have hnil : l = [] := hrest.eq_nil (by simp_all) hz
        subst hnil
        exact ⟨[m], [], rfl, ⟨rfl, hz⟩, rfl, rfl, fun _ _ => rfl⟩
      case isFalse hz =>
        have hl' : l ≠ [] := by
          rintro rfl
          exact hz hrest
        split
        case isTrue =>
          refine ⟨[m], l, rfl, ⟨rfl, by simp⟩, hrest.update hml, by simp [hl'], fun x hx => ?_⟩
          have hxm : x ≠ m := fun he => hx (by simp [he])
          simp [hxm]
        case isFalse hlen' =>
          obtain ⟨b, r, rfl, h1, h2, h3, h4⟩ := ih (by omega) (q := ⟨next m, q.tail⟩) hl' hrest
            (List.nodup_cons.mp hn).2 (by simp_all)
          refine ⟨m :: b, r, rfl, ⟨rfl, ?_⟩, h2, h3, fun x hx => h4 x (by simp_all)⟩
          rw [h4 m hml]
          exact h1

/-- The search of `__message_reply_get`. -/
theorem replyFind_spec {next : Nat → Nat} {m fuel head : Nat} {l : List Nat} (prev : Nat)
    (hc : Chain next head l 0) (h0 : 0 ∉ l) (hf : l.length < fuel) :
    (m ∉ l ∧ replyFind next m fuel head prev = none) ∨
      ∃ l₁ l₂, l = l₁ ++ m :: l₂ ∧
        replyFind next m fuel head prev = some (l₁.getLast?.getD prev) := by
  induction fuel generalizing head prev l with
  | zero => omega
  | succ fuel ih =>
    cases l with
    | nil =>
      left
      rw [chain_nil] at hc
      simp [replyFind, hc]
    | cons x l =>
      obtain ⟨rfl, hrest⟩ := hc
      have hx : head ≠ 0 := fun he => h0 (by simp [he])
      simp only [replyFind, hx, if_false]
      by_cases hxm : head = m
      · right
        exact ⟨[], l, by rw [hxm]; rfl, by simp [hxm]⟩
      · rw [if_neg hxm]
        rcases ih head hrest (by simp_all) (by simpa using hf) with
          ⟨h1, h2⟩ | ⟨l₁, l₂, rfl, h2⟩
        · left
          exact ⟨by simp [h1, Ne.symm hxm], h2⟩
        · right
          refine ⟨head :: l₁, l₂, rfl, ?_⟩
          rw [h2, List.getLast?_cons]
          simp

/-! ## The invariant -/

/-- The batches `B` and the queues `Q` of all connections. -/
structure Inv (s : ThreadBus) (B Q : Nat → List Nat) : Prop where
  fifo : ∀ c, Fifo s c (B c) (Q c)
  nodup : ∀ c, (B c ++ Q c).Nodup
  apart : ∀ c d, c ≠ d → ∀ x ∈ B c ++ Q c, x ∉ B d ++ Q d
  heap : ∀ c, ∀ x ∈ B c ++ Q c, x ∈ s.heap
  heap_nodup : s.heap.Nodup
  enq_lt : ∀ c, ∀ n ∈ s.enq c, n < s.count
  rem_lt : ∀ c, ∀ n ∈ s.rem c, n < s.count

section
variable {s t : ThreadBus} {B Q : Nat → List Nat} {c d m : Nat} {b q : List Nat}

/-- What a queue depends on. -/
theorem Fifo.frame (h : Fifo s c b q) (hq : t.queue c = s.queue c) (hl : t.list c = s.list c)
    (he : t.enq c = s.enq c) (hd : t.del c = s.del c) (hr : t.rem c = s.rem c)
    (hnext : ∀ x ∈ b ++ q, t.next x = s.next x)
    (hser : ∀ x ∈ b ++ q, t.serial x = s.serial x) : Fifo t c b q := by
  refine ⟨?_, ?_, ?_, h.no_null, ?_, ?_⟩
  · rw [hq]
    exact h.queue.congr fun x hx => hnext x (by simp [hx])
  · rw [hq]
    exact h.tail
  · rw [hl]
    exact h.batch.congr fun x hx => hnext x (by simp [hx])
  · rw [he]
    exact h.once
  · rw [he, hd, hr, h.order]
    congr 1
    exact List.map_congr_left fun x hx => (hser x hx).symm

/-- No queue is longer than the number of messages put on queues. -/
theorem Inv.length_le (h : Inv s B Q) (c : Nat) : (Q c).length ≤ s.count := by
  have h1 : ((s.enq c).filter (· ∉ s.rem c)).length ≤ (s.enq c).length :=
    List.length_filter_le _ _
  rw [(h.fifo c).order] at h1
  have h2 : (s.enq c).length ≤ s.count := by
    have hsub : (s.enq c).toFinset ⊆ Finset.range s.count := by
      intro n hn
      exact Finset.mem_range.mpr (h.enq_lt c n (List.mem_toFinset.mp hn))
    have := Finset.card_le_card hsub
    rwa [Finset.card_range, List.toFinset_card_of_nodup (h.fifo c).once] at this
  simp only [List.length_append, List.length_map] at h1
  omega

/-- A message that is in no list can be freed. -/
theorem free_inv (h : Inv s B Q) (hm : ∀ d, m ∉ B d ++ Q d) : Inv (messageFree s m) B Q := by
  refine ⟨fun d => (h.fifo d).frame rfl rfl rfl rfl rfl (fun _ _ => rfl) (fun _ _ => rfl),
    h.nodup, h.apart, ?_, h.heap_nodup.erase m, h.enq_lt, h.rem_lt⟩
  intro d x hx
  have hxm : x ≠ m := fun he => hm d (he ▸ hx)
  exact h.heap_nodup.mem_erase_iff.mpr ⟨hxm, h.heap d x hx⟩

/-- A new message, not yet on a queue. -/
theorem create_inv (h : Inv s B Q) (hm : m ∉ s.heap) (mess : Message) :
    Inv (messageCreate s m mess) B Q := by
  have hne : ∀ d, ∀ x ∈ B d ++ Q d, x ≠ m := fun d x hx he => hm (he ▸ h.heap d x hx)
  refine ⟨fun d => (h.fifo d).frame rfl rfl rfl rfl rfl (fun x hx => ?_) (fun _ _ => rfl),
    h.nodup, h.apart, fun d x hx => by simp [messageCreate, h.heap d x hx],
    List.nodup_cons.mpr ⟨hm, h.heap_nodup⟩, h.enq_lt, h.rem_lt⟩
  simp [messageCreate, hne d x hx]

/-- The last message of a queue that is not empty. -/
theorem Fifo.tail_eq {q' : List Nat} {x : Nat} (h : Fifo s c b (q' ++ [x])) :
    (s.queue c).tail = x := by
  rw [h.tail, List.getLast?_append]
  simp

/-- The lists of the invariant after those of connection `c` are replaced by fewer messages. -/
theorem Inv.replace (h : Inv s B Q) (hq : Fifo t c b q) (hn : (b ++ q).Nodup)
    (hsub : ∀ x ∈ b ++ q, x ∈ B c ++ Q c) (hfifo : ∀ d, d ≠ c → Fifo t d (B d) (Q d))
    (hheap : t.heap = s.heap) (henq : ∀ d, ∀ n ∈ t.enq d, n < t.count)
    (hrem : ∀ d, ∀ n ∈ t.rem d, n < t.count) :
    Inv t (Function.update B c b) (Function.update Q c q) := by
  refine ⟨fun d => ?_, fun d => ?_, fun d e hde x hx => ?_, fun d x hx => ?_,
    hheap ▸ h.heap_nodup, henq, hrem⟩
  · by_cases hd : d = c
    · subst hd
      simpa using hq
    · simpa [hd] using hfifo d hd
  · by_cases hd : d = c
    · subst hd
      simpa using hn
    · simpa [hd] using h.nodup d
  · have hback : ∀ d y, y ∈ Function.update B c b d ++ Function.update Q c q d →
        y ∈ B d ++ Q d := by
      intro d y hy
      by_cases hd : d = c
      · subst hd
        exact hsub y (by simpa using hy)
      · simpa [hd] using hy
    exact fun hx' => h.apart d e hde x (hback d x hx) (hback e x hx')
  · by_cases hd : d = c
    · subst hd
      exact hheap ▸ h.heap d x (hsub x (by simpa using hx))
    · exact hheap ▸ h.heap d x (by simpa [hd] using hx)

/-- `message_queue_add` of a message that is in no list and points nowhere. -/
theorem add_inv (h : Inv s B Q) (hm : ∀ d, m ∉ B d ++ Q d) (hm0 : m ≠ 0) (hnext : s.next m = 0)
    (hheap : m ∈ s.heap) : Inv (messageQueueAdd s c m) B (Function.update Q c (Q c ++ [m])) := by
  have hf := h.fifo c
  have hnew : s.count ∉ s.rem c := fun hmem => Nat.lt_irrefl _ (h.rem_lt c _ hmem)
  have hser : ∀ d, ∀ x ∈ B d ++ Q d, (messageQueueAdd s c m).serial x = s.serial x := by
    intro d x hx
    have hxm : x ≠ m := fun he => hm d (he ▸ hx)
    simp [messageQueueAdd, hxm]
  -- the only `next` field written is that of the last message of the queue
  have hwrite : ∀ x, x ∉ Q c → (messageQueueAdd s c m).next x = s.next x := by
    intro x hx
    unfold messageQueueAdd
    dsimp only
    split
    · rfl
    · rename_i ht
      have hxt : x ≠ (s.queue c).tail := by
        rintro rfl
        rcases List.eq_nil_or_concat (Q c) with hnil | ⟨l, y, hl⟩
        · rw [hf.tail, hnil] at ht
          exact ht rfl
        · rw [List.concat_eq_append] at hl
          rw [hl] at hf hx
          rw [hf.tail_eq] at hx
          simp at hx
      simp [hxt]
  have hfifo : Fifo (messageQueueAdd s c m) c (B c) (Q c ++ [m]) := by
    refine ⟨?_, by simp [messageQueueAdd], ?_, ?_, ?_, ?_⟩
    · rcases List.eq_nil_or_concat (Q c) with hnil | ⟨l, y, hl⟩
      · have ht : (s.queue c).tail = 0 := by rw [hf.tail, hnil]; rfl
        simp [messageQueueAdd, ht, hnil, hnext]
      · rw [List.concat_eq_append] at hl
        rw [hl] at hf ⊢
        have hy : y ≠ 0 := fun he => hf.no_null (by simp [he])
        have hn : (l ++ [y]).Nodup := hl ▸ (List.nodup_append.mp (h.nodup c)).2.1
        have hml : m ∉ l ++ [y] := fun hmem => hm c (List.mem_append_right _ (by rwa [hl]))
        have := hf.queue.snoc hn hml hnext
        simpa [messageQueueAdd, hf.tail_eq, hy] using this
    · refine hf.batch.congr fun x hx => hwrite x fun hx' => ?_
      exact (List.nodup_append.mp (h.nodup c)).2.2 x hx x hx' rfl
    · have := hf.no_null
      simp_all [Ne.symm hm0]
    · show (Function.update s.enq c (s.enq c ++ [s.count]) c).Nodup
      rw [Function.update_self]
      refine List.nodup_append.mpr ⟨hf.once, by simp, ?_⟩
      rintro x hx y hy rfl
      obtain rfl := List.mem_singleton.mp hy
      exact Nat.lt_irrefl _ (h.enq_lt c _ hx)
    · show (Function.update s.enq c (s.enq c ++ [s.count]) c).filter (· ∉ s.rem c) =
        s.del c ++ (B c ++ (Q c ++ [m])).map (messageQueueAdd s c m).serial
      have hmap : (B c ++ Q c).map (messageQueueAdd s c m).serial = (B c ++ Q c).map s.serial :=
        List.map_congr_left fun x hx => hser c x hx
      have hmap' : (B c ++ (Q c ++ [m])).map (messageQueueAdd s c m).serial =
          (B c ++ Q c).map s.serial ++ [s.count] := by
        rw [← List.append_assoc, List.map_append, hmap]
        simp [messageQueueAdd]
      rw [Function.update_self, List.filter_append, hf.order, hmap', ← List.append_assoc]
      simp [hnew]
  refine ⟨fun d => ?_, fun d => ?_, fun d e hde x hx => ?_, fun d x hx => ?_, h.heap_nodup,
    fun d n hn => ?_, fun d n hn => (h.rem_lt d n hn).trans (Nat.lt_succ_self _)⟩
  · by_cases hd : d = c
    · subst hd
      simpa using hfifo
    · rw [Function.update_of_ne hd]
      refine (h.fifo d).frame (by simp [messageQueueAdd, hd]) rfl (by simp [messageQueueAdd, hd])
        rfl rfl (fun x hx => hwrite x fun hx' => ?_) (hser d)
      exact h.apart d c hd x hx (by simp [hx'])
  · by_cases hd : d = c
    · subst hd
      rw [Function.update_self, ← List.append_assoc]
      refine List.nodup_append.mpr ⟨h.nodup d, by simp, ?_⟩
      rintro x hx y hy rfl
      obtain rfl := List.mem_singleton.mp hy
      exact hm d hx
    · simpa [hd] using h.nodup d
  · have hback : ∀ d y, y ∈ B d ++ Function.update Q c (Q c ++ [m]) d →
        y ∈ B d ++ Q d ∨ (y = m ∧ d = c) := by
      intro d y hy
      by_cases hd : d = c
      · subst hd
        rw [Function.update_self, ← List.append_assoc, List.mem_append, List.mem_singleton] at hy
        exact hy.imp id fun hy => ⟨hy, rfl⟩
      · exact .inl (by simpa [hd] using hy)
    intro hx'
    rcases hback d x hx with h1 | ⟨rfl, rfl⟩ <;> rcases hback e x hx' with h2 | ⟨h2, rfl⟩
    · exact h.apart d e hde x h1 h2
    · exact hm d (h2 ▸ h1)
    · exact hm e h2
    · exact hde rfl
  · by_cases hd : d = c
    · subst hd
      rw [Function.update_self, ← List.append_assoc, List.mem_append, List.mem_singleton] at hx
      rcases hx with hx | rfl
      · exact h.heap d x hx
      · exact hheap
    · exact h.heap d x (by simpa [hd] using hx)
  · have hlt : ∀ k ∈ s.enq d, k < s.count + 1 :=
      fun k hk => (h.enq_lt d k hk).trans (Nat.lt_succ_self _)
    by_cases hd : d = c
    · subst hd
      simp only [messageQueueAdd, Function.update_self, List.mem_append, List.mem_singleton] at hn
      rcases hn with hn | rfl
      · exact hlt n hn
      · exact Nat.lt_succ_self _
    · exact hlt n (by simpa [messageQueueAdd, hd] using hn)

/-- A connection with no batch. -/
theorem Inv.batch_nil (h : Inv s B Q) (hl : s.list c = 0) : B c = [] :=
  (h.fifo c).batch.eq_nil (fun hm => (h.fifo c).no_null (by simp [hm])) hl

/-- `message_queue_get` splits the queue. -/
theorem get_inv {len : Nat} (h : Inv s B Q) (hl : s.list c = 0) :
    ∃ b q, Inv (messageQueueGet s c len) (Function.update B c b) (Function.update Q c q) := by
  have hf := h.fifo c
  have hB := h.batch_nil hl
  have hn := h.nodup c
  have h0 := hf.no_null
  have horder := hf.order
  rw [hB, List.nil_append] at hn h0 horder
  unfold messageQueueGet
  dsimp only
  split
  case isTrue hhead =>
    have hnil : Q c = [] := hf.queue.eq_nil h0 hhead
    refine ⟨[], Q c, h.replace ⟨hf.queue, hf.tail, by simp, h0, hf.once, horder⟩ hn
      (by simp [hnil]) (fun d hd => ?_) rfl h.enq_lt h.rem_lt⟩
    exact (h.fifo d).frame rfl (by simp [hd]) rfl rfl rfl (fun _ _ => rfl) (fun _ _ => rfl)
  case isFalse hhead =>
    split
    case isTrue =>
      refine ⟨Q c, [], h.replace ⟨by simp, by simp, by simpa using hf.queue, by simpa using h0,
        hf.once, by simpa using horder⟩ (by simpa using hn)
        (fun x hx => List.mem_append_right _ (by simpa using hx)) (fun d hd => ?_) rfl
        h.enq_lt h.rem_lt⟩
      exact (h.fifo d).frame (by simp [hd]) (by simp [hd]) rfl rfl rfl (fun _ _ => rfl)
        (fun _ _ => rfl)
    case isFalse hlen =>
      have hne : Q c ≠ [] := by
        intro hnil
        apply hhead
        have := hf.queue
        rwa [hnil, chain_nil] at this
      obtain ⟨b, q, hbq, hb, hq, htail, hframe⟩ :=
        getLoop_spec (Nat.pos_of_ne_zero hlen) hne hf.queue hn h0
      refine ⟨b, q, h.replace ⟨by simpa using hq, ?_, by simpa using hb, hbq ▸ h0, hf.once,
        hbq ▸ horder⟩ (hbq ▸ hn) (fun x hx => by simp [hbq, List.mem_append.mp hx])
        (fun d hd => ?_) rfl h.enq_lt h.rem_lt⟩
      · have htail' := hf.tail
        rw [hbq] at htail'
        simp only [Function.update_self, htail, htail']
        split
        case isTrue hqnil => simp [hqnil]
        case isFalse hqne =>
          rw [List.getLast?_append_of_ne_nil _ hqne]
      · refine (h.fifo d).frame (by simp [hd]) (by simp [hd]) rfl rfl rfl (fun x hx => ?_)
          (fun _ _ => rfl)
        exact hframe x fun hx' => h.apart d c hd x hx (by simp [hx'])

/-- The state in which one turn of `connection_dispatch` handles the message `m`. -/
def popped (s : ThreadBus) (c : Nat) : ThreadBus :=
  { s with
    list := Function.update s.list c (s.next (s.list c))
    del := Function.update s.del c (s.del c ++ [s.serial (s.list c)]) }

theorem Inv.batch_cons (h : Inv s B Q) (hl : s.list c ≠ 0) : ∃ b, B c = s.list c :: b := by
  have hb := (h.fifo c).batch
  cases hB : B c with
  | nil =>
    rw [hB, chain_nil] at hb
    exact absurd hb hl
  | cons x b =>
    rw [hB] at hb
    exact ⟨b, by rw [hb.1]⟩

/-- The first message of the batch leaves it. -/
theorem pop_inv (h : Inv s B Q) {b : List Nat} (hb : B c = s.list c :: b) :
    Inv (popped s c) (Function.update B c b) (Function.update Q c (Q c)) ∧
      ∀ d, s.list c ∉ Function.update B c b d ++ Function.update Q c (Q c) d := by
  have hf := h.fifo c
  have hn := h.nodup c
  rw [hb] at hf hn
  have hn' := List.nodup_cons.mp hn
  constructor
  · refine h.replace ⟨hf.queue, hf.tail, ?_, ?_, hf.once, ?_⟩ hn'.2 ?_ (fun d hd => ?_) rfl
      h.enq_lt h.rem_lt
    · simpa [popped] using hf.batch.2
    · exact fun h0 => hf.no_null (List.mem_cons_of_mem _ h0)
    · show List.filter _ _ = Function.update s.del c _ c ++ _
      rw [Function.update_self, List.append_assoc]
      exact hf.order
    · intro x hx
      rw [hb]
      exact List.mem_cons_of_mem _ hx
    · exact (h.fifo d).frame rfl (by simp [popped, hd]) rfl (by simp [popped, hd]) rfl
        (fun _ _ => rfl) (fun _ _ => rfl)
  · intro d
    by_cases hd : d = c
    · subst hd
      simpa using hn'.1
    · rw [Function.update_of_ne hd, Function.update_of_ne hd]
      exact h.apart c d (Ne.symm hd) _ (by simp [hb])

/-- One turn of the loop of `connection_dispatch`. -/
theorem dispatchOne_inv (h : Inv s B Q) (hl : s.list c ≠ 0) (hs : Safe s (.handle c)) :
    ∃ B' Q', Inv (dispatchOne s c) B' Q' := by
  obtain ⟨b, hb⟩ := h.batch_cons hl
  obtain ⟨hpop, hout⟩ := pop_inv h hb
  have hmem : s.list c ∈ s.heap := h.heap c _ (by simp [hb])
  have hdisp : dispatchOne s c =
      if (s.mess (s.list c)).flag.unhandle then messageFree (popped s c) (s.list c)
      else if (s.mess (s.list c)).flag.reply then
        let t := { popped s c with
          mess := Function.update s.mess (s.list c) { s.mess (s.list c) with
            flag := { (s.mess (s.list c)).flag with unhandle := true } } }
        if s.connection (s.mess (s.list c)).source then
          messageQueueAdd t (s.mess (s.list c)).source (s.list c)
        else messageFree t (s.list c)
      else messageFree (popped s c) (s.list c) := rfl
  rw [hdisp]
  split
  case isTrue => exact ⟨_, _, free_inv hpop hout⟩
  case isFalse hun =>
    split
    case isTrue hrep =>
      dsimp only
      -- the flags of a message are not part of the invariant
      have hflag : ∀ f, Inv { popped s c with mess := f } (Function.update B c b)
          (Function.update Q c (Q c)) := fun f =>
        ⟨fun d => (hpop.fifo d).frame rfl rfl rfl rfl rfl (fun _ _ => rfl) (fun _ _ => rfl),
          hpop.nodup, hpop.apart, hpop.heap, hpop.heap_nodup, hpop.enq_lt, hpop.rem_lt⟩
      split
      · exact ⟨_, _, add_inv (hflag _) hout hl (hs hrep (by simpa using hun)) hmem⟩
      · exact ⟨_, _, free_inv (hflag _) hout⟩
    case isFalse => exact ⟨_, _, free_inv hpop hout⟩

/-- Striking one number from a list without repetition. -/
theorem filter_ne_of_nodup {l₁ l₂ : List Nat} {n : Nat} (hn : (l₁ ++ n :: l₂).Nodup) :
    (l₁ ++ n :: l₂).filter (· ≠ n) = l₁ ++ l₂ := by
  obtain ⟨-, h2, h3⟩ := List.nodup_append.mp hn
  have h1 : l₁.filter (· ≠ n) = l₁ := by
    refine List.filter_eq_self.mpr fun x hx => ?_
    simpa using h3 x hx n (by simp)
  have h4 : l₂.filter (· ≠ n) = l₂ := by
    refine List.filter_eq_self.mpr fun x hx => ?_
    have := (List.nodup_cons.mp h2).1
    simpa using fun he : x = n => this (he ▸ hx)
  rw [List.filter_append, h1, List.filter_cons_of_neg (by simp), h4]

/-- A message taken out of the queue of `c`: `t` has the queue without it. -/
theorem unlink_inv {l₁ l₂ : List Nat} (h : Inv s B Q) (hQ : Q c = l₁ ++ m :: l₂)
    (hqueue : Chain t.next (t.queue c).head (l₁ ++ l₂) 0)
    (htail : (t.queue c).tail = (l₁ ++ l₂).getLast?.getD 0)
    (hnext : ∀ x, x ∉ Q c → t.next x = s.next x) (hother : ∀ d, d ≠ c → t.queue d = s.queue d)
    (hlist : t.list = s.list) (henq : t.enq = s.enq) (hdel : t.del = s.del)
    (hrem : t.rem = Function.update s.rem c (s.rem c ++ [s.serial m]))
    (hser : t.serial = s.serial) (hheap : t.heap = s.heap) (hcount : t.count = s.count) :
    Inv t (Function.update B c (B c)) (Function.update Q c (l₁ ++ l₂)) ∧
      ∀ d, m ∉ Function.update B c (B c) d ++ Function.update Q c (l₁ ++ l₂) d := by
  have hf := h.fifo c
  have hn := h.nodup c
  have hsub : ∀ x ∈ l₁ ++ l₂, x ∈ Q c := by
    intro x hx
    rw [hQ]
    rcases List.mem_append.mp hx with hx | hx <;> simp [hx]
  have hmem : m ∈ Q c := by simp [hQ]
  have hmQ : s.serial m ∈ s.enq c := by
    have : s.serial m ∈ (s.enq c).filter (· ∉ s.rem c) := by
      rw [hf.order]
      exact List.mem_append_right _ (List.mem_map_of_mem (List.mem_append_right _ hmem))
    exact (List.mem_filter.mp this).1
  have hapart : m ∉ B c ++ (l₁ ++ l₂) ∧ (B c ++ (l₁ ++ l₂)).Nodup := by
    rw [hQ, ← List.append_assoc] at hn
    obtain ⟨hn1, hn2, hn3⟩ := List.nodup_append.mp hn
    rw [← List.append_assoc]
    refine ⟨fun hm => ?_, List.nodup_append.mpr ⟨hn1, (List.nodup_cons.mp hn2).2,
      fun x hx y hy => hn3 x hx y (by simp [hy])⟩⟩
    rcases List.mem_append.mp hm with hm | hm
    · exact hn3 m hm m (by simp) rfl
    · exact (List.nodup_cons.mp hn2).1 hm
  refine ⟨h.replace ⟨hqueue, htail, ?_, ?_, henq ▸ hf.once, ?_⟩ hapart.2 ?_ (fun d hd => ?_) hheap
    (by rw [henq, hcount]; exact h.enq_lt) ?_, fun d => ?_⟩
  · rw [hlist]
    refine hf.batch.congr fun x hx => hnext x fun hx' => ?_
    exact (List.nodup_append.mp hn).2.2 x hx x hx' rfl
  · intro h0
    apply hf.no_null
    rcases List.mem_append.mp h0 with h0 | h0
    · simp [h0]
    · simp [hsub 0 h0]
  · rw [henq, hdel, hrem, hser, Function.update_self]
    have hfilter : (s.enq c).filter (· ∉ s.rem c ++ [s.serial m]) =
        ((s.enq c).filter (· ∉ s.rem c)).filter (· ≠ s.serial m) := by
      rw [List.filter_filter]
      refine List.filter_congr fun x _ => ?_
      simp [and_comm]
    have hsplit : s.del c ++ (B c ++ Q c).map s.serial =
        (s.del c ++ (B c ++ l₁).map s.serial) ++ s.serial m :: l₂.map s.serial := by
      simp [hQ]
    have hnodup : ((s.enq c).filter (· ∉ s.rem c)).Nodup := hf.once.filter _
    rw [hf.order, hsplit] at hnodup
    rw [hfilter, hf.order, hsplit, filter_ne_of_nodup hnodup]
    simp
  · intro x hx
    rcases List.mem_append.mp hx with hx | hx
    · simp [hx]
    · simp [hsub x hx]
  · refine (h.fifo d).frame (hother d hd) (by rw [hlist]) (by rw [henq]) (by rw [hdel])
      (by rw [hrem]; simp [hd]) (fun x hx => hnext x fun hx' => ?_) (fun _ _ => by rw [hser])
    exact h.apart d c hd x hx (by simp [hx'])
  · intro d n hn
    rw [hcount]
    rw [hrem] at hn
    by_cases hd : d = c
    · subst hd
      rw [Function.update_self, List.mem_append, List.mem_singleton] at hn
      rcases hn with hn | rfl
      · exact h.rem_lt d n hn
      · exact h.enq_lt d _ hmQ
    · exact h.rem_lt d n (by simpa [hd] using hn)
  · by_cases hd : d = c
    · subst hd
      simpa using hapart.1
    · rw [Function.update_of_ne hd, Function.update_of_ne hd]
      exact h.apart c d (Ne.symm hd) m (List.mem_append_right _ hmem)

/-- `__message_reply_get`, when the message is not the last of several. -/
theorem reply_inv (h : Inv s B Q) (hs : Safe s (.reply c m)) :
    ∃ B' Q', Inv (messageReplyGet s c m) B' Q' := by
  have hf := h.fifo c
  have hn : (Q c).Nodup := (List.nodup_append.mp (h.nodup c)).2.1
  have h0 : 0 ∉ Q c := fun hm => hf.no_null (by simp [hm])
  have hlen := h.length_le c
  rcases replyFind_spec (m := m) (s.queue c).head hf.queue h0
    (Nat.lt_succ_of_le hlen) with ⟨-, hnone⟩ | ⟨l₁, l₂, hQ, hfind⟩
  · refine ⟨B, Q, ?_⟩
    unfold messageReplyGet
    simp only [hnone]
    exact h
  · have hq := hf.queue
    have htail := hf.tail
    rw [hQ] at hn hq htail
    unfold messageReplyGet
    simp only [hfind]
    rcases List.eq_nil_or_concat l₁ with rfl | ⟨l, p, hl⟩
    · -- the first message of the queue
      have hhead : (s.queue c).head = m := hq.1
      rw [List.getLast?_nil, Option.getD_none, hhead, if_pos rfl]
      split
      case isTrue ht =>
        have hl₂ : l₂ = [] := by
          rcases List.eq_nil_or_concat l₂ with h2 | ⟨l, y, h2⟩
          · exact h2
          · rw [List.concat_eq_append] at h2
            rw [h2, List.nil_append, ← List.cons_append, List.getLast?_append] at htail
            have hmy : m = y := by simpa [← ht] using htail
            have := (List.nodup_cons.mp hn).1
            exact absurd (by simp [h2, hmy]) this
        subst hl₂
        have := unlink_inv (t := { s with
          rem := Function.update s.rem c (s.rem c ++ [s.serial m])
          queue := Function.update s.queue c ⟨0, 0⟩ }) h hQ (by simp) (by simp)
          (fun _ _ => rfl) (fun d hd => by simp [hd]) rfl rfl rfl rfl rfl rfl rfl
        exact ⟨_, _, free_inv this.1 this.2⟩
      case isFalse ht =>
        have hl₂ : l₂ ≠ [] := by
          rintro rfl
          exact ht (by simpa using htail.symm)
        have := unlink_inv (t := { s with
          rem := Function.update s.rem c (s.rem c ++ [s.serial m])
          queue := Function.update s.queue c ⟨s.next m, (s.queue c).tail⟩ }) h hQ
          (by simpa using hq.2)
          (by
            simp only [Function.update_self, htail, List.nil_append]
            rw [List.getLast?_cons_of_ne_nil hl₂])
          (fun _ _ => rfl) (fun d hd => by simp [hd]) rfl rfl rfl rfl rfl rfl rfl
        exact ⟨_, _, free_inv this.1 this.2⟩
    · -- a message after `p`
      rw [List.concat_eq_append] at hl
      subst hl
      rw [List.append_assoc, List.singleton_append] at hq hn
      have hprev : (l ++ [p]).getLast?.getD (s.queue c).head = p := by
        rw [List.getLast?_append]; simp
      have hpm : m ≠ p := by
        rintro rfl
        have := (List.nodup_cons.mp (List.nodup_append.mp hn).2.1).1
        simp at this
      have hpQ : p ∈ Q c := by simp [hQ]
      rw [hprev, if_neg hpm]
      have hl₂ : l₂ ≠ [] := by
        rintro rfl
        have ht : (s.queue c).tail = m := by
          rw [htail, List.getLast?_append]; simp
        have hh : (s.queue c).head = m := by rw [hs ht.symm, ht]
        obtain ⟨z, hz, hzp, -⟩ := chain_append.mp hq
        cases l with
        | nil =>
          rw [chain_nil] at hz
          exact hpm (by rw [← hh, hz, hzp])
        | cons x l =>
          have hxm : m = x := by rw [← hh, hz.1]
          have := (List.nodup_cons.mp hn).1
          exact this (by simp [hxm])
      have := unlink_inv (t := { s with
        rem := Function.update s.rem c (s.rem c ++ [s.serial m])
        next := Function.update s.next p (s.next m) }) h hQ
        (by
          rw [List.append_assoc, List.singleton_append]
          exact hq.unlink hn)
        (by
          show (s.queue c).tail = _
          rw [htail, List.getLast?_append_of_ne_nil _ (List.cons_ne_nil m l₂),
            List.getLast?_cons_of_ne_nil hl₂, List.getLast?_append_of_ne_nil _ hl₂])
        (fun x hx => by
          have hxp : x ≠ p := fun he => hx (he ▸ hpQ)
          simp [hxp])
        (fun _ _ => rfl) rfl rfl rfl rfl rfl rfl rfl
      exact ⟨_, _, free_inv this.1 this.2⟩

end

/-! ## Runs -/

section
variable {s : ThreadBus} {B Q : Nat → List Nat} {c dest m : Nat} {flag : Flag}

/-- Sending a message. -/
theorem send_inv (h : Inv s B Q) (hm : m ≠ 0 ∧ m ∉ s.heap) :
    ∃ B' Q', Inv (tbusSendSignal s c dest m flag) B' Q' := by
  unfold tbusSendSignal
  split
  case isTrue => exact ⟨B, Q, h⟩
  case isFalse =>
    have hnew := create_inv h hm.2 ⟨dest, c, flag⟩
    have hout : ∀ d, m ∉ B d ++ Q d := fun d hx => hm.2 (h.heap d m hx)
    dsimp only
    split
    · exact ⟨_, _, add_inv hnew hout hm.1 (by simp [messageCreate]) (by simp [messageCreate])⟩
    · exact ⟨_, _, free_inv hnew hout⟩

theorem step_inv {e : Event} (h : Inv s B Q) (hl : Legal s e) (hs : Safe s e) :
    ∃ B' Q', Inv (step s e) B' Q' := by
  cases e with
  | signal c dest m flag => exact send_inv h hl
  | call c dest m flag => exact send_inv h hl
  | dispatch c len =>
    unfold step
    dsimp only
    split
    case isTrue hb =>
      obtain ⟨b, q, h'⟩ := get_inv h hb
      exact ⟨_, _, h'⟩
    case isFalse => exact ⟨B, Q, h⟩
  | handle c =>
    unfold step
    dsimp only
    split
    case isTrue => exact ⟨B, Q, h⟩
    case isFalse hb => exact dispatchOne_inv h hb hs
  | reply c m => exact reply_inv h hs

theorem init_inv (conns : List Nat) : Inv (threadBusInit conns) (fun _ => []) (fun _ => []) := by
  refine ⟨fun c => ⟨?_, ?_, ?_, ?_, ?_, ?_⟩, ?_, ?_, ?_, ?_, ?_, ?_⟩ <;> simp [threadBusInit]

end

/-- In every run of safe steps, every queue has its `tail` at the last message, and every message
put on it and not taken out by its sender is handled once and in order. -/
theorem bus_in_order {conns : List Nat} {es : List Event}
    (h : Obeys step (fun s e => Legal s e ∧ Safe s e) (threadBusInit conns) es) :
    InOrder (run step (threadBusInit conns) es) := by
  have hinv : ∃ B Q, Inv (run step (threadBusInit conns) es) B Q :=
    h.run_inv (I := fun s => ∃ B Q, Inv s B Q)
      (fun s e hs hc => by
        obtain ⟨B, Q, hi⟩ := hs
        exact step_inv hi hc.1 hc.2)
      ⟨_, _, init_inv conns⟩
  obtain ⟨B, Q, hi⟩ := hinv
  exact fun c => ⟨B c, Q c, hi.fifo c⟩

/-- Connection 1 calls a method of connection 2, which has been sent a signal before; 2 handles
both and answers, two more signals reach 1 behind the answer, and 1 takes its answer out. -/
def sampleRun : List Event :=
  [.signal 3 2 100 ⟨false, false⟩, .call 1 2 200 ⟨false, false⟩, .signal 3 1 300 ⟨false, false⟩,
    .dispatch 2 10, .handle 2, .handle 2, .signal 3 1 400 ⟨false, false⟩, .reply 1 200,
    .dispatch 1 1, .handle 1]

theorem bus_in_order_sample :
    (run step (threadBusInit [1, 2, 3]) sampleRun).del 1 = [2] ∧
      InOrder (run step (threadBusInit [1, 2, 3]) sampleRun) :=
  ⟨by decide, bus_in_order (by decide)⟩

/-- Connection 3 has sent a signal to 1 before the answer to the call of 1 arrives; 1 takes its
answer out, which is the last of the two messages; the next signal from 3 is lost. -/
def losingRun : List Event :=
  [.call 1 2 100 ⟨false, false⟩, .signal 3 1 200 ⟨false, false⟩, .dispatch 2 10, .handle 2,
    .reply 1 100, .signal 3 1 300 ⟨false, false⟩, .dispatch 1 10, .handle 1]

/-- When the answer is taken out, `tail` stays at it; after `losingRun` the last signal is on no
queue, in no batch, and was not handled. -/
theorem bus_loses :
    Obeys step Legal (threadBusInit [1, 2, 3]) losingRun ∧
      (run step (threadBusInit [1, 2, 3]) (losingRun.take 5)).queue 1 = ⟨200, 100⟩ ∧
      (run step (threadBusInit [1, 2, 3]) (losingRun.take 5)).next 200 = 0 ∧
      ¬ InOrder (run step (threadBusInit [1, 2, 3]) losingRun) := by
  refine ⟨by decide, by decide, by decide, fun h => ?_⟩
  obtain ⟨b, q, hf⟩ := h 1
  have hq : q = [] := hf.queue.eq_nil (fun h0 => hf.no_null (by simp [h0])) (by decide)
  have hb : b = [] := hf.batch.eq_nil (fun h0 => hf.no_null (by simp [h0])) (by decide)
  have hlen := congrArg List.length hf.order
  rw [hq, hb] at hlen
  revert hlen
  decide

end Bus
end DaemonGroup
