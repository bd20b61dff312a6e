import DaemonGroup.Snooping.Unresolved

/-!
# DaemonGroup.Snooping.Replies

What `asd` is told: for every message sent to it there is the question it answers, and a question of its own. As
every `asd` is started with a `local` that is 0 or 1, `fd_table` is never read behind its end.

* `replies_answer` — of every run.
-/

namespace DaemonGroup
namespace Snooping
namespace Asd

open Lib

/-- What happens to the questions about one kind of addresses. -/
inductive Note (α : Type)
  | asked (msg : Question)
  | known (haddr : Mac) (ipaddr : α)

/-- The question is taken: it is correct, and the snooping is enabled. -/
def Event.question : Event → Option Question
  | .ask msg enabled _ _ => if checkMsg msg ≠ 0 ∨ ¬ enabled then none else some msg
  | _ => none

def Event.note4 : Event → List (Note UInt32)
  | .ack haddr ipaddr _ => [.known haddr ipaddr]
  | e => e.question.toList.map .asked

def Event.note6 : Event → List (Note Addr6)
  | .reply haddr ipaddr _ => [.known haddr ipaddr]
  | e => e.question.toList.map .asked

section
variable {α : Type}

def Note.asks (haddr : Mac) : Note α → Bool
  | .asked msg => msg.STAMAC = haddr
  | .known _ _ => false

/-- The question at `q` is the latest one for the client. -/
structure Latest (notes : List (Note α)) (haddr : Mac) (q : Nat) (msg : Question) : Prop where
  asked : notes[q]? = some (.asked msg)
  client : msg.STAMAC = haddr
  last : ∀ k n, q < k → notes[k]? = some n → ¬ n.asks haddr

/-- A message to an `asd`, with the places of the note of its question and of the note that it was sent for. -/
structure Told (α : Type) where
  socket : Nat
  reply : Reply α
  asked : Nat
  known : Nat

def Told.message (x : Told α) : Nat × Reply α := (x.socket, x.reply)

/-- The message answers the latest question for its client, with an address that became known for it then, and
goes to the `asd` that asked. -/
structure Told.Right (op : Operate) (notes : List (Note α)) (x : Told α) : Prop where
  kind : x.reply.Op = op
  answer : notes[x.known]? = some (.known x.reply.STAMAC x.reply.ipAddress)
  question : ∃ msg, Latest (notes.take x.known) x.reply.STAMAC x.asked msg ∧
    x.socket = msg.vrrid.toNat + msg.local_flag.toNat * MAX_HANSI_PROFILE.toNat ∧
    x.reply.BSSIndex = msg.BSSIndex ∧ x.reply.local_flag = msg.local_flag

/-- Of two messages about one client, the newer one answers a question that came after the older one was sent. -/
def Told.Apart (newer older : Told α) : Prop :=
  newer.reply.STAMAC = older.reply.STAMAC → older.known < newer.asked

/-- What was sent, the newest message first, is right, and no question is answered twice. -/
def Answers (op : Operate) (notes : List (Note α)) (sent : List (Nat × Reply α)) : Prop :=
  ∃ told : List (Told α), told.map Told.message = sent ∧ (∀ x ∈ told, x.Right op notes) ∧ told.Pairwise Told.Apart

/-- A question as `asd` asks it. -/
def Question.Proper (msg : Question) : Prop := msg.vrrid.toNat < 17 ∧ msg.local_flag.toNat < 2

/-- The invariant: what waits is a question that was asked after the last message about its client. -/
structure Explains (op : Operate) (notes : List (Note α)) (c : Counter α) (told : List (Told α)) : Prop where
  proper : ∀ msg, .asked msg ∈ notes → msg.Proper
  sent : told.map Told.message = c.sent
  right : ∀ x ∈ told, x.Right op notes
  apart : told.Pairwise Told.Apart
  waiting : ∀ haddr w, c.waiting haddr = some w → ∃ q msg, Latest notes haddr q msg ∧
    msg.BSSIndex = w.bssindex ∧ msg.vrrid = w.vrrpid ∧ msg.local_flag = w.local_flag ∧
    ∀ x ∈ told, x.reply.STAMAC = haddr → x.known < q

def Explained (op : Operate) (notes : List (Note α)) (c : Counter α) : Prop := ∃ told, Explains op notes c told

theorem Explained.answers {op : Operate} {notes : List (Note α)} {c : Counter α} (h : Explained op notes c) :
    Answers op notes c.sent := by
  obtain ⟨told, h⟩ := h
  exact ⟨told, h.sent, h.right, h.apart⟩

variable {op : Operate} {notes : List (Note α)} {c : Counter α} {haddr : Mac} {msg : Question} {env : Env}
  {w : Waiting} {fd : Nat → Bool} {q : Nat} {told : List (Told α)}

theorem Latest.mem (h : Latest notes haddr q msg) : .asked msg ∈ notes := List.mem_of_getElem? h.asked

theorem Latest.lt (h : Latest notes haddr q msg) : q < notes.length := (List.getElem?_eq_some_iff.mp h.asked).1

theorem Latest.snoc {n : Note α} (h : Latest notes haddr q msg) (hn : ¬ n.asks haddr) :
    Latest (notes ++ [n]) haddr q msg := by
  refine ⟨by rw [List.getElem?_append_left h.lt, h.asked], h.client, fun k m hk hm => ?_⟩
  rcases Nat.lt_or_ge k notes.length with hlt | hge
  · rw [List.getElem?_append_left hlt] at hm
    exact h.last k m hk hm
  · rw [List.getElem?_append_right hge] at hm
    obtain rfl := List.mem_singleton.mp (List.mem_of_getElem? hm)
    exact hn

theorem latest_asked : Latest (notes ++ [.asked msg]) msg.STAMAC notes.length msg := by
  refine ⟨List.getElem?_concat_length, rfl, fun k n hk hn => ?_⟩
  rw [List.getElem?_eq_none (by rw [List.length_append]; exact hk)] at hn
  cases hn

theorem Told.Right.lt {x : Told α} (h : x.Right op notes) : x.known < notes.length :=
  (List.getElem?_eq_some_iff.mp h.answer).1

/-- What was sent stays explained. -/
theorem Told.Right.snoc {x : Told α} (h : x.Right op notes) (n : Note α) : x.Right op (notes ++ [n]) := by
  refine ⟨h.kind, by rw [List.getElem?_append_left h.lt, h.answer], ?_⟩
  rw [List.take_append_of_le_length h.lt.le]
  exact h.question

/-- A note that asks for no client that is waited for. -/
theorem Explains.note {n : Note α} (h : Explains op notes c told) (hproper : ∀ msg, n = .asked msg → msg.Proper)
    (hn : ∀ haddr, (c.waiting haddr).isSome → ¬ n.asks haddr) : Explains op (notes ++ [n]) c told := by
  refine ⟨fun msg hm => ?_, h.sent, fun x hx => (h.right x hx).snoc n, h.apart, fun haddr w hw => ?_⟩
  · rcases List.mem_append.mp hm with hm | hm
    · exact h.proper msg hm
    · exact hproper msg (List.mem_singleton.mp hm).symm
  · obtain ⟨q, msg, hlatest, hrest⟩ := h.waiting haddr w hw
    exact ⟨q, msg, hlatest.snoc (hn haddr (Option.isSome_iff_exists.mpr ⟨w, hw⟩)), hrest⟩

theorem proper_of_taken (hc : checkMsg msg = 0) (hl : msg.local_flag.toNat < 2) : msg.Proper := by
  refine ⟨?_, hl⟩
  rw [checkMsg] at hc
  split_ifs at hc with hv
  have h16 : (MAX_HANSI_PROFILE - 1).toNat = 16 := by decide
  rw [gt_iff_lt, UInt32.lt_iff_toNat_lt, h16] at hv
  omega

/-- The place of the socket of an `asd`. -/
theorem tblIndex_eq {v l : UInt32} (hv : v.toNat < 17) (hl : l.toNat < 2) :
    tblIndex v l = v.toNat + l.toNat * MAX_HANSI_PROFILE.toNat := by
  have h17 : MAX_HANSI_PROFILE.toNat = 17 := by decide
  rw [tblIndex, UInt32.toNat_add, UInt32.toNat_mul, h17]
  omega

theorem fdTable_some {v l : UInt32} (hv : v.toNat < 17) (hl : l.toNat < 2) :
    fdTable fd (tblIndex v l) = some (fd (tblIndex v l)) := by
  have h17 : MAX_HANSI_PROFILE.toNat = 17 := by decide
  refine if_pos ?_
  rw [tblIndex_eq hv hl, h17]
  omega

/-- There is always a place for the socket. -/
theorem asdSocket_some (sock : Bool) (fd : Nat → Bool) (h : msg.Proper) :
    ∃ r, asdSocket sock msg.vrrid msg.local_flag fd = some r := by
  obtain ⟨hv, hl⟩ := h
  have hl' : (if msg.local_flag ≠ 0 then (1 : UInt32) else 0).toNat < 2 := by split <;> decide
  have hinit : ∃ fd', initSockUnixClientAsd sock msg.vrrid msg.local_flag fd = some fd' := by
    unfold initSockUnixClientAsd
    generalize (if msg.local_flag ≠ 0 then (1 : UInt32) else 0) = l at hl' ⊢
    simp only [fdTable_some hv hl', Option.bind_eq_bind, Option.bind_some]
    split <;> exact ⟨_, rfl⟩
  obtain ⟨fd', hinit⟩ := hinit
  simp only [asdSocket, fdTable_some hv hl, hinit, Option.bind_eq_bind, Option.bind_some]
  split <;> exact ⟨_, rfl⟩

/-! ### One family of addresses -/

/-- The new question waits, if there is memory for it, and it comes after all that was sent. -/
theorem Explained.asked (h : Explained op notes c) (hmsg : msg.Proper) :
    Explained op (notes ++ [.asked msg]) (c.ask env msg) := by
  obtain ⟨told, h⟩ := h
  have hproper : ∀ m, (.asked msg : Note α) = .asked m → m.Proper := by
    rintro m ⟨⟩
    exact hmsg
  rw [Counter.ask]
  split_ifs with hc
  · refine ⟨told, fun m hm => ?_, h.sent, fun x hx => (h.right x hx).snoc _, h.apart, fun haddr w hw => ?_⟩
    · rcases List.mem_append.mp hm with hm | hm
      · exact h.proper m hm
      · exact hproper m (List.mem_singleton.mp hm).symm
    · dsimp only at hw
      by_cases hh : haddr = msg.STAMAC
      · subst hh
        rw [Function.update_self] at hw
        cases hw
        exact ⟨_, msg, latest_asked, rfl, rfl, rfl, fun x hx _ => (h.right x hx).lt⟩
      · rw [Function.update_of_ne hh] at hw
        obtain ⟨q, m, hm, hrest⟩ := h.waiting haddr w hw
        exact ⟨q, m, hm.snoc (by simp [Note.asks, Ne.symm hh]), hrest⟩
  · refine ⟨told, h.note hproper fun haddr hw => ?_⟩
    have hh : msg.STAMAC ≠ haddr := by
      rintro rfl
      exact hc (.inl hw)
    simp [Note.asks, hh]

theorem Explained.aged {cur_time : UInt32} (h : Explained op notes c) : Explained op notes (c.age cur_time) := by
  obtain ⟨told, h⟩ := h
  refine ⟨told, h.proper, h.sent, h.right, h.apart, fun haddr w hw => ?_⟩
  exact h.waiting haddr w (Option.filter_eq_some_iff.mp hw).1

/-- The question that waits is answered: the message is newer than all that were sent. -/
theorem Explains.answered {ipaddr : α} (h : Explains op notes c told) (hw : c.waiting haddr = some w)
    (env : Env) :
    ∃ x : Told α, Explains op (notes ++ [.known haddr ipaddr])
      { waiting := Function.update c.waiting haddr none
        sent := (tblIndex w.vrrpid w.local_flag,
          ⟨op, w.bssindex, w.local_flag, ipaddr, haddr, env.ifname 0⟩) :: c.sent }
      (x :: told) := by
  obtain ⟨q, m, hm, hb, hv, hl, hlater⟩ := h.waiting haddr w hw
  have hkept : Explains op (notes ++ [.known haddr ipaddr]) c told :=
    h.note nofun fun haddr' _ => by simp [Note.asks]
  obtain ⟨hp, hp'⟩ := h.proper m hm.mem
  refine ⟨⟨tblIndex w.vrrpid w.local_flag, ⟨op, w.bssindex, w.local_flag, ipaddr, haddr, env.ifname 0⟩, q,
    notes.length⟩, hkept.proper, ?_, ?_, ?_, fun j w' hw' => ?_⟩
  · rw [List.map_cons, hkept.sent]
    rfl
  · intro x hx
    rcases List.mem_cons.mp hx with rfl | hx
    · refine ⟨rfl, List.getElem?_concat_length, m, ?_, by rw [← hv, ← hl, tblIndex_eq hp hp'], hb.symm, hl.symm⟩
      rw [List.take_left]
      exact hm
    · exact hkept.right x hx
  · refine List.pairwise_cons.mpr ⟨fun x hx hsame => hlater x hx hsame.symm, hkept.apart⟩
  · dsimp only at hw'
    have hh : j ≠ haddr := by
      rintro rfl
      simp at hw'
    rw [Function.update_of_ne hh] at hw'
    obtain ⟨q', m', hm', hrest⟩ := hkept.waiting j w' hw'
    obtain ⟨hb', hv', hl', hlater'⟩ := hrest
    refine ⟨q', m', hm', hb', hv', hl', fun x hx hsame => ?_⟩
    rcases List.mem_cons.mp hx with rfl | hx
    · exact absurd hsame.symm hh
    · exact hlater' x hx hsame

theorem Explained.known (h : Explained op notes c) (env : Env) (haddr : Mac) (ipaddr : α) (fd : Nat → Bool) :
    ∃ r, c.know op env haddr ipaddr fd = some r ∧ Explained op (notes ++ [.known haddr ipaddr]) r.2 := by
  obtain ⟨told, h⟩ := h
  have hkept : Explains op (notes ++ [.known haddr ipaddr]) c told :=
    h.note nofun fun haddr' _ => by simp [Note.asks]
  cases hw : c.waiting haddr with
  | none => exact ⟨(fd, c), by simp [Counter.know, hw], told, hkept⟩
  | some w =>
    obtain ⟨q, m, hm, hb, hv, hl, -⟩ := h.waiting haddr w hw
    obtain ⟨r, hr⟩ := asdSocket_some env.sock fd (h.proper m hm.mem)
    rw [hv, hl] at hr
    simp only [Counter.know, hw, hr, Option.map_some]
    refine ⟨_, rfl, ?_⟩
    split_ifs with hc
    · obtain ⟨x, hx⟩ := @Explains.answered _ _ _ _ _ _ _ ipaddr h hw env
      exact ⟨x :: told, hx⟩
    · exact ⟨told, hkept⟩

end

/-! ### Runs -/

/-- The invariant of the daemon, after the events `pre`. -/
def Office.Explained (pre : List Event) (s : Office) : Prop :=
  Asd.Explained .DHCP_IP (pre.flatMap Event.note4) s.v4 ∧
    Asd.Explained .DHCP_IPv6 (pre.flatMap Event.note6) s.v6

theorem explained_empty {α : Type} {op : Operate} : Explained op [] (⟨fun _ => none, []⟩ : Counter α) := by
  refine ⟨[], fun _ h => ?_, rfl, fun _ h => ?_, .nil, fun _ _ h => ?_⟩
  · cases h
  · cases h
  · cases h

theorem flatMap_snoc {ε ν : Type} {f : ε → List ν} {pre : List ε} {e : ε} :
    (pre ++ [e]).flatMap f = pre.flatMap f ++ f e := by
  simp

theorem step_explained (pre : List Event) (s : Office) (e : Event) (h : s.Explained pre)
    (hlocal : ∀ msg ∈ e.question, msg.local_flag.toNat < 2) :
    ∃ s', s.step e = some s' ∧ s'.Explained (pre ++ [e]) := by
  obtain ⟨h4, h6⟩ := h
  unfold Office.Explained
  simp only [flatMap_snoc]
  cases e with
  | ask msg enabled env env6 =>
    refine ⟨_, rfl, ?_⟩
    by_cases hc : checkMsg msg ≠ 0 ∨ ¬ enabled
    · simp only [Event.note4, Event.note6, Event.question, if_pos hc, Option.toList_none, List.map_nil,
        List.append_nil]
      exact ⟨h4, h6⟩
    · have hproper : msg.Proper :=
        proper_of_taken (not_not.mp fun h => hc (.inl h)) (hlocal msg (if_neg hc))
      simp only [Event.note4, Event.note6, Event.question, if_neg hc, Option.toList_some, List.map_cons,
        List.map_nil]
      exact ⟨h4.asked hproper, h6.asked hproper⟩
  | ack haddr ipaddr env =>
    obtain ⟨r, hr, hexp⟩ := h4.known env haddr ipaddr s.fd_table
    refine ⟨{ s with fd_table := r.1, v4 := r.2 }, by rw [Office.step, hr]; rfl, hexp, ?_⟩
    simpa [Event.note6, Event.question] using h6
  | reply haddr ipaddr env =>
    obtain ⟨r, hr, hexp⟩ := h6.known env haddr ipaddr s.fd_table
    refine ⟨{ s with fd_table := r.1, v6 := r.2 }, by rw [Office.step, hr]; rfl, ?_, hexp⟩
    simpa [Event.note4, Event.question] using h4
  | aging uptime =>
    refine ⟨_, rfl, ?_, ?_⟩
    · simpa [Event.note4, Event.question] using h4.aged
    · simpa [Event.note6, Event.question] using h6
  | aging6 uptime =>
    refine ⟨_, rfl, ?_, ?_⟩
    · simpa [Event.note4, Event.question] using h4
    · simpa [Event.note6, Event.question] using h6.aged

/-- Whatever the order of the messages, each message to an `asd` answers the latest question about its client,
which this `asd` has asked, with an address that became known for the client after it; between two messages about
a client lies a new question, and the table of the sockets is never read behind its end. -/
theorem replies_answer (es : List Event)
    (hlocal : ∀ e ∈ es, ∀ msg ∈ e.question, msg.local_flag.toNat < 2) :
    ∃ s', tryRun Desk.step .empty es = some s' ∧
      Answers .DHCP_IP (es.flatMap Event.note4) s'.v4.sent ∧
      Answers .DHCP_IPv6 (es.flatMap Event.note6) s'.v6.sent := by
  have hview : (tryRun Desk.step .empty es).map Desk.view = tryRun Office.step .empty es :=
    tryRun_map (fun _ _ s' hs h => hs.step s' h) (fun _ _ hs => Desk.view_step hs) Desk.safe_empty
  obtain ⟨t, ht, h4, h6⟩ := tryRun_trace (I := Office.Explained) step_explained
    (⟨explained_empty, explained_empty⟩ : Office.empty.Explained []) hlocal
  rw [ht] at hview
  obtain ⟨s', hs', rfl⟩ := Option.map_eq_some_iff.mp hview
  exact ⟨s', hs', h4.answers, h6.answers⟩

def sampleEnv : Env := ⟨100, true, true, true, fun _ => none⟩

def sampleClient : Mac := Vector.replicate 6 5

/-- A question, which comes twice, the address, and the address again; then the question and the address once more. -/
def sampleEvents : List Event :=
  let msg : Question := { BSSIndex := 7, vrrid := 2, local_flag := 1, STAMAC := sampleClient }
  [.ask msg true sampleEnv sampleEnv, .ask msg true sampleEnv sampleEnv, .ack sampleClient 0x0a000001 sampleEnv,
    .aging 200, .ack sampleClient 0x0a000001 sampleEnv, .ask msg true sampleEnv sampleEnv,
    .ack sampleClient 0x0a000002 sampleEnv]

theorem replies_two : ∃ s', tryRun Desk.step .empty sampleEvents = some s' ∧
    Answers .DHCP_IP (sampleEvents.flatMap Event.note4) s'.v4.sent ∧ s'.v4.sent.map Prod.fst = [19, 19] := by
  obtain ⟨s', hs', h4, -⟩ := replies_answer sampleEvents (by decide +kernel)
  have hsent : (tryRun Desk.step .empty sampleEvents).map (fun s => s.v4.sent.map Prod.fst) = some [19, 19] := by
    decide +kernel
  rw [hs'] at hsent
  exact ⟨s', hs', h4, Option.some.inj hsent⟩

end Asd
end Snooping
end DaemonGroup
