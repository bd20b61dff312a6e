import DaemonGroup.Lib.Replica
import DaemonGroup.Pppoe.Sessions

/-!
# DaemonGroup.Pppoe.Reports

What the active instance tells its peer of the sessions that are online. `Told t s x m` lists what a
handler can do in that respect: the session `s` is online as `x` afterwards, and the message `m` is
due. `Move.told` says that every handler of the active does one of these, unless it ends a session
that is online at once: no message is due then, and the peer keeps the session.
-/

namespace DaemonGroup
namespace Pppoe

open Lib

/-! ## Sessions as the two nodes see them -/

/-- What the sessions of the two nodes are compared by. -/
structure SessTuple where
  sid : Nat
  mac : Mac
  ip : UInt32
  state : SessState
deriving DecidableEq, Repr

def Life.tuple (l : Life) : SessTuple :=
  { sid := l.sid, mac := l.mac, ip := l.ipaddr.ip, state := l.state }

def sessKeys : Keys SessTuple Nat Mac where
  key := SessTuple.sid
  addr := SessTuple.mac

/-- What a message tells of. -/
def Sync.note : Sync → Note SessTuple Nat Mac
  | .SESSONLINE m => .add { sid := m.sid, mac := m.mac, ip := m.ipaddr.ip, state := .ONLINE }
  | .SESSOFFLINE m => .drop m.sid
  | .SESSUPDATE m => .confirm m.sid m.mac
  | .SESSCLEAR => .clear
  | .SYNCFINISHED => .skip

def Life.online (l : Life) : Option SessTuple := if l.state = .ONLINE then some l.tuple else none

def View.online (v : View) : Option SessTuple := if v.exited then none else v.life.online

/-! ## What a handler tells -/

/-- The trigger may take the session online, or off, or is a request to tell of it. -/
def Trigger.reports (t : Trigger) (s : Session) : Bool :=
  t.settles ∧ s.state = .ONLINEPOST ∨
    (t.stops s ∨ t = .disconnect ∨ t = .sync) ∧ s.state = .ONLINE

/-- A trigger of an instance that serves clients, other than the clearing of all sessions. -/
def Trigger.serves : Trigger → Bool
  | .clear | .clearV2 | .standbyRegister _ | .standbyAuthorize .. | .offlineSync
  | .updateSync _ => false
  | .frame _ | .padt | .padsRoom | .timer _ | .register _ | .authorize .. | .unauthorize _
  | .reply .. | .disconnect | .kick | .sync | .wakeup => true

inductive Told (t : Trigger) (s : Session) (x : Option SessTuple) : Option Sync → Prop
  | quiet (hx : x = s.toLife.online) : Told t s x none
  | update {m : UpdateSync} (hx : x = s.toLife.online) (hm : m.sid = s.sid ∧ m.mac = s.mac) :
      Told t s x (some (.SESSUPDATE m))
  | again {m : OnlineSync} (hst : s.state = .ONLINE) (hx : x = s.toLife.online)
      (hm : Tells m s.toLife) : Told t s x (some (.SESSONLINE m))
  | online {m : OnlineSync} (ht : t.reports s) (hst : s.state ≠ .ONLINE)
      (hx : x = some { s.toLife.tuple with state := .ONLINE }) (hm : Tells m s.toLife) :
      Told t s x (some (.SESSONLINE m))
  | offline (ht : s.state = .ONLINE → t.reports s) (hx : x = none) :
      Told t s x (some s.toLife.offlineSync)

section
variable {t : Trigger} {e : Env} {c : Ctx} {v : View}

theorem Life.online_none {l : Life} (h : l.state ≠ .ONLINE) : l.online = none := if_neg h

theorem Life.online_some {l : Life} {y : SessTuple} (h : l.online = some y) :
    l.state = .ONLINE ∧ y = l.tuple := by
  rw [Life.online] at h
  split at h
  · rename_i hst
    exact ⟨hst, (Option.some.inj h).symm⟩
  · cases h

/-- The session is not online, before or after. -/
theorem Told.off {s : Session} (hst : s.state ≠ .ONLINE) {x : Option SessTuple} (hx : x = none) :
    Told t s x none :=
  .quiet (hx.trans (Life.online_none hst).symm)

theorem View.online_left (h : v.exited = true) : v.online = none := if_pos h

theorem View.online_stays (h : v.exited = false) : v.online = v.life.online :=
  if_neg (by rw [h]; exact Bool.false_ne_true)

/-- The state, the id and the address are the ones the session had. -/
theorem Told.same (hc : c.exited = false) (hx : v.exited = c.exited)
    (ht : v.life.tuple = c.sess.toLife.tuple) : Told t c.sess v.online none := by
  refine .quiet ?_
  have hst : v.life.state = c.sess.state := congrArg SessTuple.state ht
  rw [View.online_stays (hx.trans hc), Life.online, Life.online, ht, hst]

theorem post_queue {v : View} {m : Sync} :
    (v.post e m).queue = v.queue ++ if e.posts then [m] else [] := by
  rw [View.post]
  split <;> simp

theorem AskFrame.tuple {v' : View} (h : AskFrame v v') : v'.life.tuple = v.life.tuple := by
  rw [Life.tuple, h.sid, h.mac, h.ipaddr, h.state]
  rfl

theorem AskFrame.offlineSync {v' : View} (h : AskFrame v v') :
    v'.life.offlineSync = v.life.offlineSync := by
  rw [Life.offlineSync, h.sid, h.mac]
  rfl

theorem Frame.opens_offline {f : Frame} {o : SessionOptions} {s : Session} (h : f.opens o s) :
    s.state ≠ .ONLINE := by
  intro hst
  have := Frame.opens_lcp h
  rw [hst] at this
  cases this

theorem clean_queue (v : View) : v.clean.queue = v.queue := by
  rw [View.clean]
  split <;> rfl

theorem clean_tuple (v : View) : v.clean.life.tuple = v.life.tuple := by
  obtain ⟨q, hq⟩ := clean_life v
  rw [hq]
  rfl

/-- What a handler has told of its session: the message that was due has been queued if it could
be. -/
def Tale (t : Trigger) (e : Env) (c : Ctx) (v : View) : Prop :=
  ∃ m : Option Sync, Told t c.sess v.online m ∧
    v.queue = c.queue ++ if e.posts then m.toList else []

theorem Told.tale (h : Told t c.sess v.online none) (hq : v.queue = c.queue) : Tale t e c v :=
  ⟨none, h, by rw [hq]; simp⟩

theorem Told.post {m : Sync} (h : Told t c.sess v.online (some m))
    (hq : v.queue = c.queue ++ if e.posts then [m] else []) : Tale t e c v :=
  ⟨some m, h, hq⟩

/-- A handler of the active, other than the clearing, tells what it did, unless it ends a session
that is online at once. -/
theorem Move.told (h : Move t e c v) (hv : v.fault = false) (hc : c.exited = false)
    (hend : c.sess.state = .ONLINE → t.mayEnd c.sess → t = .disconnect) (hserves : t.serves) :
    Tale t e c v := by
  have hoff : ∀ {st : SessState}, c.sess.state = st → st ≠ .ONLINE → c.sess.state ≠ .ONLINE :=
    fun h hne => h ▸ hne
  have hauth : ∀ {ip : UInt32}, t = .authorize ip 0 → c.sess.ipaddr.ip = ip →
      c.sess.state ≠ .ONLINE := by
    rintro ip rfl hip hst
    have := hend hst (by simp [Trigger.mayEnd, hip])
    cases this
  have hstops : t.stops c.sess → c.sess.state = .ONLINE → t.reports c.sess := by
    intro ht hst
    simp [Trigger.reports, ht, hst]
  cases h with
  | idle | retransmit | lost | misfit => exact (Told.same hc rfl rfl).tale rfl
  | preopen hst =>
    exact (Told.off (hoff hst (by decide)) (View.online_stays hc)).tale rfl
  | postopen hst =>
    have hne : c.sess.state ≠ .ONLINE := hst.elim (hoff · (by decide)) (hoff · (by decide))
    exact (Told.off hne (View.online_stays hc)).tale rfl
  | authpre _ hopen =>
    exact (Told.off (Frame.opens_offline hopen) (View.online_stays hc)).tale rfl
  | authpost _ _ hst ha =>
    refine (Told.off (hoff hst (by decide)) ?_).tale ha.frame.queue
    exact View.online_stays (ha.frame.exited.trans hc)
  | exitAuth _ _ hst ha =>
    exact (Told.off (hoff hst (by decide)) rfl).tale ha.frame.queue
  | opened _ hst =>
    refine (Told.off (hoff hst (by decide)) ?_).tale (clean_queue _)
    exact View.online_stays ((clean_exited _).trans hc)
  | exitOpened _ hst => exact (Told.off (hoff hst (by decide)) rfl).tale (clean_queue _)
  | address hst ha =>
    obtain ⟨y, -, rfl⟩ := ha
    have hne := hoff hst (by decide)
    refine (Told.off hne ?_).tale rfl
    exact (View.online_stays hc).trans (Life.online_none hne)
  | onlinepre hst ha =>
    obtain ⟨y, -, rfl⟩ := ha
    exact (Told.off (hoff hst (by decide)) (View.online_stays hc)).tale rfl
  | onlinepost ht hip ha =>
    refine (Told.off (hauth ht hip) ?_).tale ha.frame.queue
    exact View.online_stays (ha.frame.exited.trans hc)
  | exitOnline ht hip ha => exact (Told.off (hauth ht hip) rfl).tale ha.frame.queue
  | @online m ht hst hm =>
    refine (Told.online ?_ (hoff hst (by decide)) ?_ hm).post ?_
    · simp [Trigger.reports, ht, hst]
    · have hx : ((c.view.settle.post e (.SESSONLINE m)).goto .ONLINE).exited = false :=
        (clean_exited c.view).trans hc
      have hlife := congrArg (fun x : SessTuple => { x with state := .ONLINE }) (clean_tuple c.view)
      rw [View.online_stays hx]
      exact congrArg some hlife
    · rw [View.goto, post_queue]
      exact congrArg (· ++ _) (clean_queue _)
  | standby ht => rw [ht] at hserves; cases hserves
  | update _ ha hm =>
    have hframe := ha.elim Asked.frame AskFailed.frame
    refine (Told.update ?_ hm).post (hframe.queue.trans post_queue)
    rw [View.online_stays (hframe.exited.trans hc), Life.online, hframe.tuple, hframe.state]
    rfl
  | sync ht hst hm =>
    exact (Told.again hst (View.online_stays hc) hm).post post_queue
  | offlinepost ht hst ha =>
    rw [ha.frame.offlineSync]
    refine (Told.offline (hstops ht) ?_).post ?_
    · exact View.online_stays (ha.frame.exited.trans hc)
    · exact post_queue.trans (congrArg (· ++ _) ha.frame.queue)
  | stuck ht hterm hst ha =>
    rw [ha.frame.offlineSync]
    refine (Told.offline (hstops ?_) ?_).post ?_
    · rw [ht]
      exact hterm
    · exact View.online_stays (ha.frame.exited.trans hc)
    · exact post_queue.trans (congrArg (· ++ _) ha.frame.queue)
  | exitOffline ht _ hst ha =>
    rw [ha.frame.offlineSync]
    refine (Told.offline (hstops ht) rfl).post ?_
    exact post_queue.trans (congrArg (· ++ _) ha.frame.queue)
  | exitStopped _ hst => exact (Told.off (hoff hst (by decide)) rfl).tale (clean_queue _)
  | settled => exact (Told.same hc (clean_exited _) (clean_tuple _)).tale (clean_queue _)
  | exit ht hd ha =>
    obtain ⟨y, -, rfl⟩ := ha
    exact (Told.off (fun hst => hd (hend hst ht)) rfl).tale rfl
  | disconnect ht =>
    refine (Told.offline ?_ rfl).post post_queue
    intro hst
    simp [Trigger.reports, ht, hst]
  | clear ht => rw [ht] at hserves; cases hserves
  | faulty h => rw [h] at hv; cases hv

/-- The peer follows: `O` are the other sessions that are online. -/
theorem Told.follows {s : Session} {x : Option SessTuple} {m : Option Sync} {p : Bool} {whole : Prop}
    {O R S S' : Set SessTuple} (h : Told t s x m) (hp : t.reports s → p = true)
    (hO : ∀ y ∈ O, y.sid ≠ s.sid ∧ y.mac ≠ s.mac)
    (hS : ∀ y, y ∈ S ↔ y ∈ O ∨ s.toLife.online = some y)
    (hS' : ∀ y, y ∈ S' ↔ y ∈ O ∨ x = some y) (hF : Tracks whole R S) :
    Tracks whole (sessKeys.replay R ((if p then m.toList else []).map Sync.note)) S' := by
  have hkeep : x = s.toLife.online → ∀ y, y ∈ S' ↔ y ∈ S := by
    rintro rfl y
    rw [hS, hS']
  cases h with
  | quiet hx =>
    rw [show (if p then (none : Option Sync).toList else []) = [] by split <;> rfl]
    exact hF.of_eq (hkeep hx)
  | update hx hm =>
    cases p with
    | false => exact hF.of_eq (hkeep hx)
    | true =>
      refine (hF.of_eq (hkeep hx)).confirm fun y hy hk => ?_
      rcases (hS y).mp ((hkeep hx y).mp hy) with hyO | hyO
      · exact absurd (hk.trans hm.1) (hO y hyO).1
      · rw [(Life.online_some hyO).2]
        exact hm.2.symm
  | @again m hst hx hm =>
    cases p with
    | false => exact hF.of_eq (hkeep hx)
    | true =>
      have htuple : SessTuple.mk m.sid m.mac m.ipaddr.ip .ONLINE = s.toLife.tuple := by
        rw [hm.sid, hm.mac, hm.ipaddr, Life.tuple, hst]
      have hon : s.toLife.online = some s.toLife.tuple := if_pos hst
      refine ((hF.of_eq (hkeep hx)).again (K := sessKeys) (fun y hy hk => ?_) ?_).1
      · rw [htuple] at hk ⊢
        rcases (hS y).mp ((hkeep hx y).mp hy) with hyO | hyO
        · exact absurd hk (not_or.mpr (hO y hyO))
        · exact (Life.online_some hyO).2
      · rw [hS', hx, htuple]
        exact .inr hon
  | @online m ht hst hx hm =>
    rw [hp ht]
    have htuple : SessTuple.mk m.sid m.mac m.ipaddr.ip .ONLINE =
        { s.toLife.tuple with state := .ONLINE } := by
      rw [hm.sid, hm.mac, hm.ipaddr]
      rfl
    have hSO : ∀ y, y ∈ S ↔ y ∈ O := by
      intro y
      rw [hS, Life.online_none hst]
      simp
    refine hF.add (K := sessKeys) (fun y hy => ?_) fun y => ?_
    · rw [htuple]
      exact hO y ((hSO y).mp hy)
    · rw [hS', hx, hSO, htuple, Option.some_inj, eq_comm (a := y)]
  | offline ht hx =>
    have hS'O : ∀ y, y ∈ S' ↔ y ∈ O := by
      intro y
      rw [hS', hx]
      simp
    cases hpc : p with
    | false =>
      have hst : s.state ≠ .ONLINE := by
        intro hst
        rw [hp (ht hst)] at hpc
        cases hpc
      refine hF.of_eq fun y => ?_
      rw [hS'O, hS, Life.online_none hst]
      simp
    | true =>
      refine hF.drop (K := sessKeys) fun y => ?_
      rw [hS'O, hS]
      constructor
      · exact fun hy => ⟨.inl hy, (hO y hy).1⟩
      · rintro ⟨hy | hy, hk⟩
        · exact hy
        · rw [(Life.online_some hy).2] at hk
          exact absurd rfl hk

end

end Pppoe
end DaemonGroup
