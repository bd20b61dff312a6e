import DaemonGroup.Eag.Radius
import DaemonGroup.Eag.Authenticators
import DaemonGroup.Lib.Run
import DaemonGroup.Pppoe.Md5
import Mathlib.Algebra.Order.Ring.Nat
import Mathlib.Data.List.Basic

/-!
# DaemonGroup.Eag.Slots

The ids of the RADIUS client in every run: an id is free exactly if it has no timer, it is taken only
while it is free, requests are sent to the server before they are sent to the backup server and not more
often than the retry parameters say, timeouts are not negative, and only an answer to a request ends it
(`Radius.Sound`).

All of this holds as long as the retry parameters are not changed while a request is out and the total
time that follows from them is an `int`, replies are of the kind of their requests, and an id is given up
in its time (`RadiusOp.Ok`).
-/

namespace DaemonGroup
namespace Eag

open Lib Bytes

/-- What the rest of the program and the network do to the ids. -/
inductive RadiusOp
  | req (user_addr : UserAddr) (packet : RadiusReq) (radius_srv : RadiusSrv) (wait mem : Bool)
  | reply (k : Nat) (packet : Packet) (nbyte : Nat) (radius_ip : UInt32) (radius_port : UInt16)
  | timer (k : Nat) (i : UInt8)
  | setRetryParams (retry_interval retry_times vice_retry_times : Int)
  | tick

def RadiusOp.step (md5 : Digest) (R : Radius) : RadiusOp → Radius
  | req user_addr packet radius_srv wait mem => R.radiusReq user_addr packet radius_srv wait mem
  | reply k packet nbyte radius_ip radius_port =>
    match R.answeredId md5 k packet nbyte radius_ip radius_port with
    | some r => R.answer md5 k packet r
    | none => R
  | timer k i =>
    match R.dueId k i with
    | some (r, .RADIUS_ID_RETRY_TIMEOUT) => R.radiusIdRetryTimeout k i r
    | some (r, .RADIUS_ID_STATUS_TIMEOUT) => R.radiusIdStatusTimeout k i r
    | none => R
  | setRetryParams retry_interval retry_times vice_retry_times =>
    R.setRetryParams retry_interval retry_times vice_retry_times
  | tick => { R with now := R.now + 1 }

namespace RadiusLog

/-- The entry says that the request was sent. -/
def isSent (request : Nat) : RadiusLog → Bool
  | sent q _ _ _ => q = request
  | _ => false

/-- The entry says that the request was sent to the backup server. -/
def isBackup (request : Nat) : RadiusLog → Bool
  | sent q backup _ _ => q = request ∧ backup
  | _ => false

/-- A reply of this code is an answer to a request of that code. -/
def Fits (code request : UInt8) : Prop :=
  ((code = RADIUS_CODE_ACCESS_ACCEPT ∨ code = RADIUS_CODE_ACCESS_REJECT) ∧
    request = RADIUS_CODE_ACCESS_REQUEST) ∨
  (code = RADIUS_CODE_ACCOUNTING_RESPONSE ∧ request = RADIUS_CODE_ACCOUNTING_REQUEST)

instance (code request : UInt8) : Decidable (Fits code request) := inferInstanceAs (Decidable (_ ∨ _))

/-- What the log, the newest entry first, may say: the ids that were taken were free; a request has been
sent not more often than the parameters allow, and to the backup server only after it was sent to the
other; the replies that were accepted are authentic answers. -/
def Right : List RadiusLog → Prop
  | [] => True
  | taken _ status :: l => status = .RADIUS_ID_FREE ∧ Right l
  | sent q backup retry_times vice_retry_times :: l =>
    (l.countP (isSent q) + 1 : Int) ≤ 1 + retry_times + vice_retry_times ∧
      (backup = false → l.countP (isBackup q) = 0) ∧ Right l
  | answered code req passes :: l => passes = true ∧ Fits code req.code ∧ Right l

end RadiusLog

namespace Radius

/-- The id `i` of the socket `k`. -/
def slot (R : Radius) (k : Nat) (i : UInt8) : Option RadiusId := R.sockradius_list[k]?.map (·.id i)

/-- What the ids and the log are to be. -/
structure Sound (R : Radius) : Prop where
  timer : ∀ k i r, R.slot k i = some r → (r.status = .RADIUS_ID_FREE ↔ r.t_timeout = none)
  timeout : ∀ k i r, R.slot k i = some r → r.t_timeout ≠ none → 0 ≤ r.timeout
  log : RadiusLog.Right R.log

/-- What of a request that is out the log knows: how often it was sent, and where. -/
structure Counted (R : Radius) (r : RadiusId) : Prop where
  number : r.req_packet.number < R.requests
  sent : (R.log.countP (RadiusLog.isSent r.req_packet.number) : Int) = 1 + r.retry_count + r.vice_retry_count
  backup : (R.log.countP (RadiusLog.isBackup r.req_packet.number) : Int) = r.vice_retry_count
  retry : r.retry_count ≤ R.retry_times
  vice : r.vice_retry_count ≤ R.vice_retry_times
  primary : r.vice_retry_count ≠ 0 → r.retry_count = R.retry_times

/-- The total time of a request, as the retry parameters give it. -/
def totalTime (R : Radius) : Int := R.retry_interval * (R.retry_times + R.vice_retry_times + 1) * 2

/-- What holds of an id at any time. -/
structure Good (R : Radius) (r : RadiusId) : Prop where
  timer : r.status = .RADIUS_ID_FREE ↔ r.t_timeout = none
  timeout : r.t_timeout ≠ none → 0 ≤ r.timeout
  total : r.total_time < 2 ^ 31
  started : r.status = .RADIUS_ID_USED → r.start_time ≤ R.now
  retried : ∀ due, r.t_timeout = some (.RADIUS_ID_RETRY_TIMEOUT, due) → r.status = .RADIUS_ID_USED
  counted : r.status = .RADIUS_ID_USED → R.Counted r

/-- The invariant. The requests that are out have different numbers. -/
structure Kept (R : Radius) : Prop where
  interval : 0 ≤ R.retry_interval
  times : 0 ≤ R.retry_times
  vice : 0 ≤ R.vice_retry_times
  total : R.totalTime < 2 ^ 31
  good : ∀ k i r, R.slot k i = some r → R.Good r
  apart : ∀ k i r k' i' r', R.slot k i = some r → R.slot k' i' = some r' → r.status = .RADIUS_ID_USED →
    r'.status = .RADIUS_ID_USED → r.req_packet.number = r'.req_packet.number → k = k' ∧ i = i'
  known : ∀ q, R.requests ≤ q → R.log.countP (RadiusLog.isSent q) = 0 ∧ R.log.countP (RadiusLog.isBackup q) = 0
  log : RadiusLog.Right R.log

theorem Kept.sound {R : Radius} (h : R.Kept) : R.Sound :=
  ⟨fun k i r hr => (h.good k i r hr).timer, fun k i r hr => (h.good k i r hr).timeout, h.log⟩

section
variable {R R' : Radius} {k k' : Nat} {i i' : UInt8} {r r' : RadiusId}

theorem slot_setId : (R.setId k i r).slot k' i' =
    if k' = k ∧ i' = i then (R.slot k i).map fun _ => r else R.slot k' i' := by
  by_cases hk : k' = k
  · subst hk
    by_cases hi : i' = i
    · subst hi
      cases hs : R.sockradius_list[k']? <;> simp [slot, setId, hs]
    · cases hs : R.sockradius_list[k']? <;> simp [slot, setId, hs, hi]
  · simp [slot, setId, hk, Ne.symm hk]

/-- What an id that is answered is. -/
theorem answeredId_some {md5 : Digest} {packet : Packet} {nbyte : Nat} {radius_ip : UInt32}
    {radius_port : UInt16} (h : R.answeredId md5 k packet nbyte radius_ip radius_port = some r) :
    R.slot k (packet 1) = some r ∧ r.status = .RADIUS_ID_USED ∧
      authentic md5 packet r.req_packet (replySecret r packet) = true := by
  rw [answeredId] at h
  cases hs : R.sockradius_list[k]? with
  | none => simp [hs] at h
  | some s =>
    simp only [hs, Option.bind_eq_bind, Option.bind_some] at h
    split at h
    · cases h
    · split at h
      · cases h
      · rename_i hused
        split at h
        · rename_i hcheck
          cases h
          refine ⟨by simp [slot, hs], not_not.mp hused, ?_⟩
          rw [replyCheck] at hcheck
          split at hcheck
          · rename_i hcode
            have hacct : packet 0 ≠ RADIUS_CODE_ACCOUNTING_RESPONSE := by
              intro heq
              rw [heq] at hcode
              revert hcode
              decide
            simp only [replySecret, hacct, if_false]
            simp only [decide_eq_true_eq] at hcheck
            exact hcheck.2.2
          · split at hcheck
            · rename_i hcode
              simp only [replySecret, hcode, if_true]
              simp only [decide_eq_true_eq] at hcheck
              exact hcheck.2.2
            · cases hcheck
        · cases h

/-- A slot other than the one that changes, in a state whose log has nothing new about its request. -/
theorem Good.frame (h : R.Good r) (htimes : R'.retry_times = R.retry_times)
    (hvice : R'.vice_retry_times = R.vice_retry_times) (hreq : R.requests ≤ R'.requests)
    (hnow : R.now ≤ R'.now)
    (hsent : r.status = .RADIUS_ID_USED → R'.log.countP (RadiusLog.isSent r.req_packet.number) =
      R.log.countP (RadiusLog.isSent r.req_packet.number))
    (hbackup : r.status = .RADIUS_ID_USED → R'.log.countP (RadiusLog.isBackup r.req_packet.number) =
      R.log.countP (RadiusLog.isBackup r.req_packet.number)) : R'.Good r := by
  refine ⟨h.timer, h.timeout, h.total, fun hused => (h.started hused).trans hnow, h.retried, fun hused => ?_⟩
  have hc := h.counted hused
  refine ⟨Nat.lt_of_lt_of_le hc.number hreq, ?_, ?_, ?_, ?_, ?_⟩
  · rw [hsent hused]
    exact hc.sent
  · rw [hbackup hused]
    exact hc.backup
  · rw [htimes]
    exact hc.retry
  · rw [hvice]
    exact hc.vice
  · rw [htimes]
    exact hc.primary

/-- One id changes. Its request is the one that was there, or a new one, and the log has news about no
other. -/
theorem Kept.update (h : R.Kept) (hr : R.slot k i = some r)
    (hslot : ∀ k' i', R'.slot k' i' = if k' = k ∧ i' = i then some r' else R.slot k' i')
    (hinterval : R'.retry_interval = R.retry_interval) (htimes : R'.retry_times = R.retry_times)
    (hvice : R'.vice_retry_times = R.vice_retry_times) (hreq : R.requests ≤ R'.requests)
    (hnow : R.now ≤ R'.now)
    (hnumber : r'.status = .RADIUS_ID_USED →
      (r.status = .RADIUS_ID_USED ∧ r'.req_packet.number = r.req_packet.number) ∨
        R.requests ≤ r'.req_packet.number)
    (hcount : ∀ q, (r'.status = .RADIUS_ID_USED → q ≠ r'.req_packet.number) →
      R'.log.countP (RadiusLog.isSent q) = R.log.countP (RadiusLog.isSent q) ∧
        R'.log.countP (RadiusLog.isBackup q) = R.log.countP (RadiusLog.isBackup q))
    (hgood : R'.Good r') (hlog : RadiusLog.Right R'.log) : R'.Kept := by
  -- no other request that is out has the number of this one
  have hne : ∀ k₁ i₁ r₁, R.slot k₁ i₁ = some r₁ → ¬ (k₁ = k ∧ i₁ = i) → r₁.status = .RADIUS_ID_USED →
      r'.status = .RADIUS_ID_USED → r₁.req_packet.number ≠ r'.req_packet.number := by
    intro k₁ i₁ r₁ hr₁ hother hused₁ hused' heq
    obtain ⟨hused, hsame⟩ | hnew := hnumber hused'
    · exact hother (h.apart k₁ i₁ r₁ k i r hr₁ hr hused₁ hused (heq.trans hsame))
    · have hlt := ((h.good k₁ i₁ r₁ hr₁).counted hused₁).number
      omega
  have htotal : R'.totalTime < 2 ^ 31 := by
    rw [totalTime, hinterval, htimes, hvice]
    exact h.total
  refine ⟨hinterval ▸ h.interval, htimes ▸ h.times, hvice ▸ h.vice, htotal, ?_, ?_, ?_, hlog⟩
  · intro k₁ i₁ r₁ hr₁
    rw [hslot] at hr₁
    split at hr₁
    · cases hr₁
      exact hgood
    · rename_i hother
      have hc := fun hused₁ => hcount r₁.req_packet.number (hne k₁ i₁ r₁ hr₁ hother hused₁)
      exact (h.good k₁ i₁ r₁ hr₁).frame htimes hvice hreq hnow (fun hu => (hc hu).1) fun hu => (hc hu).2
  · intro k₁ i₁ r₁ k₂ i₂ r₂ hr₁ hr₂ hu₁ hu₂ heq
    rw [hslot] at hr₁ hr₂
    split at hr₁ <;> split at hr₂
    · rename_i h₁ h₂
      exact ⟨h₁.1.trans h₂.1.symm, h₁.2.trans h₂.2.symm⟩
    · rename_i h₁ h₂
      cases hr₁
      exact absurd heq.symm (hne k₂ i₂ r₂ hr₂ h₂ hu₂ hu₁)
    · rename_i h₁ h₂
      cases hr₂
      exact absurd heq (hne k₁ i₁ r₁ hr₁ h₁ hu₁ hu₂)
    · exact h.apart k₁ i₁ r₁ k₂ i₂ r₂ hr₁ hr₂ hu₁ hu₂ heq
  · intro q hq
    have hc := hcount q fun hused' heq => by
      have hlt := (hgood.counted hused').number
      omega
    have hk := h.known q (Nat.le_trans hreq hq)
    exact ⟨hc.1.trans hk.1, hc.2.trans hk.2⟩

/-- An id that is given up in its time. -/
theorem waitId_good (h : R.Good r) (hused : r.status = .RADIUS_ID_USED)
    (htime : R.now ≤ r.total_time + r.start_time) : R'.Good (R.waitId r) := by
  have htotal := h.total
  have hstarted := h.started hused
  have hrest : int (r.total_time + r.start_time - R.now) = r.total_time + r.start_time - R.now :=
    int_eq (by omega) (by omega)
  refine ⟨by simp [waitId, radiusIdEvent], fun _ => ?_, htotal, fun hw => ?_, by simp [waitId, radiusIdEvent],
    fun hw => ?_⟩
  · simp only [waitId, radiusIdEvent, hrest]
    omega
  · cases hw
  · cases hw

theorem Kept.answer {md5 : Digest} {packet : Packet} {nbyte : Nat} {radius_ip : UInt32} {radius_port : UInt16}
    (h : R.Kept) (hid : R.answeredId md5 k packet nbyte radius_ip radius_port = some r)
    (hfits : RadiusLog.Fits (packet 0) r.req_packet.code) (htime : R.now ≤ r.total_time + r.start_time) :
    (R.answer md5 k packet r).Kept := by
  obtain ⟨hr, hused, hpass⟩ := answeredId_some hid
  refine @Radius.Kept.update _ _ _ _ _ (R.waitId r) h hr (fun k' i' => ?_) rfl rfl rfl (Nat.le_refl _)
    (Int.le_refl _) ?_ ?_ ?_ ?_
  · have := @Radius.slot_setId R k k' (packet 1) i' (R.waitId r)
    rw [hr] at this
    exact this
  · intro hused
    cases hused
  · intro q hq
    simp [Radius.answer, RadiusLog.isSent, RadiusLog.isBackup]
  · exact waitId_good (h.good _ _ r hr) hused htime
  · exact ⟨hpass, hfits, h.log⟩

theorem slot_of_dueId {t : IdTimer} (h : R.dueId k i = some (r, t)) : R.slot k i = some r ∧
    ∃ due, r.t_timeout = some (t, due) := by
  rw [dueId] at h
  cases hs : R.sockradius_list[k]? with
  | none => simp [hs] at h
  | some s =>
    cases ht : (s.id i).t_timeout with
    | none => simp [hs, ht] at h
    | some x =>
      simp only [hs, ht, Option.bind_eq_bind, Option.bind_some] at h
      split at h
      · cases h
      · cases h
        exact ⟨by simp [slot, hs], x.2, ht⟩

theorem setId_slots (hr : R.slot k i = some r) (k' : Nat) (i' : UInt8) :
    (R.setId k i r').slot k' i' = if k' = k ∧ i' = i then some r' else R.slot k' i' := by
  rw [slot_setId, hr, Option.map_some]

theorem Kept.statusTimeout (h : R.Kept) (hr : R.slot k i = some r) : (R.radiusIdStatusTimeout k i r).Kept := by
  refine h.update hr (setId_slots hr) rfl rfl rfl (Nat.le_refl _) (Int.le_refl _) ?_ (fun _ _ => ⟨rfl, rfl⟩) ?_
    h.log
  · intro hused
    cases hused
  · exact ⟨by simp, by simp, by simp, by simp, by simp, by simp⟩

/-- The request is given up. -/
theorem Kept.wait (h : R.Kept) (hr : R.slot k i = some r) (hused : r.status = .RADIUS_ID_USED)
    (htime : R.now ≤ r.total_time + r.start_time) : (R.setId k i (R.waitId r)).Kept := by
  refine h.update hr (setId_slots hr) rfl rfl rfl (Nat.le_refl _) (Int.le_refl _) ?_ (fun _ _ => ⟨rfl, rfl⟩) ?_
    h.log
  · intro hw
    cases hw
  · exact waitId_good (h.good _ _ r hr) hused htime

theorem send_counts {q n : Nat} {backup : Bool} (hq : q ≠ n) :
    (R.send n backup).log.countP (RadiusLog.isSent q) = R.log.countP (RadiusLog.isSent q) ∧
      (R.send n backup).log.countP (RadiusLog.isBackup q) = R.log.countP (RadiusLog.isBackup q) := by
  simp [send, RadiusLog.isSent, RadiusLog.isBackup, Ne.symm hq]

/-- The request is sent again, to the server or to the backup server. -/
theorem Kept.retry (h : R.Kept) (hr : R.slot k i = some r) (hused : r.status = .RADIUS_ID_USED)
    (hwait : R.retry_times ≤ r.retry_count → R.vice_retry_times ≤ r.vice_retry_count →
      R.now ≤ r.total_time + r.start_time) : (R.radiusIdRetryTimeout k i r).Kept := by
  have hg := h.good k i r hr
  have hc := hg.counted hused
  have hnonneg := h.vice
  rw [radiusIdRetryTimeout]
  split
  · rename_i hlt
    have hvc : r.vice_retry_count = 0 := by
      by_contra hne
      have := hc.primary hne
      omega
    have hb := hc.backup
    have hs := hc.sent
    refine h.update hr (setId_slots hr) rfl rfl rfl (Nat.le_refl _) (Int.le_refl _)
      (fun _ => .inl ⟨hused, rfl⟩) ?_ ?_ ?_
    · intro q hq
      exact send_counts (hq hused)
    · refine ⟨by simp [radiusIdEvent, hused], fun _ => h.interval, hg.total, hg.started, fun _ _ => hused,
        fun _ => ⟨hc.number, ?_, ?_, ?_, hc.vice, ?_⟩⟩
      · simp [send, setId, RadiusLog.isSent, radiusIdEvent]
        omega
      · simp [send, setId, RadiusLog.isBackup, radiusIdEvent]
        omega
      · simp [send, setId, radiusIdEvent]
        omega
      · intro hne
        exact absurd hvc hne
    · refine ⟨?_, fun _ => ?_, h.log⟩
      · dsimp only [send, setId]
        omega
      · dsimp only [send, setId]
        omega
  · rename_i hge
    have hb := hc.backup
    have hs := hc.sent
    have hretry := hc.retry
    split
    · rename_i hlt
      refine h.update hr (setId_slots hr) rfl rfl rfl (Nat.le_refl _) (Int.le_refl _)
        (fun _ => .inl ⟨hused, rfl⟩) ?_ ?_ ?_
      · intro q hq
        exact send_counts (hq hused)
      · refine ⟨by simp [radiusIdEvent, hused], fun _ => h.interval, hg.total, hg.started, fun _ _ => hused,
          fun _ => ⟨hc.number, ?_, ?_, hc.retry, ?_, ?_⟩⟩
        · simp [send, setId, RadiusLog.isSent, radiusIdEvent]
          omega
        · simp [send, setId, RadiusLog.isBackup, radiusIdEvent]
          omega
        · simp [send, setId, radiusIdEvent]
          omega
        · intro _
          simp [send, setId, radiusIdEvent]
          omega
      · refine ⟨?_, fun hf => absurd hf (by decide), h.log⟩
        dsimp only [send, setId]
        omega
    · exact h.wait hr hused (hwait (by omega) (by omega))

theorem detectFreeId_free {s : SockRadius} (h : s.detectFreeId = some i) :
    (s.id i).status = .RADIUS_ID_FREE := by
  simpa using List.find?_some h

theorem freeId_free {l : List SockRadius} (h : freeId l = some (k, i)) :
    ∃ s, l[k]? = some s ∧ (s.id i).status = .RADIUS_ID_FREE := by
  rw [freeId] at h
  obtain ⟨x, hx, hf⟩ := List.exists_of_findSome?_eq_some h
  cases hd : x.1.detectFreeId with
  | none => simp [hd] at hf
  | some j =>
    rw [hd, Option.map_some] at hf
    cases hf
    exact ⟨x.1, List.mem_zipIdx_iff_getElem?.mp hx, detectFreeId_free hd⟩

theorem usedId_wait {user_addr : UserAddr} {req : RadiusReq} {srv : RadiusSrv} {wait : Bool} :
    (R.usedId user_addr req srv wait r).status = .RADIUS_ID_USED ∧
      (R.usedId user_addr req srv wait r).t_timeout ≠ none ∧
      (R.usedId user_addr req srv wait r).req_packet = req ∧
      (R.usedId user_addr req srv wait r).retry_count = 0 ∧
      (R.usedId user_addr req srv wait r).vice_retry_count = 0 ∧
      (R.usedId user_addr req srv wait r).start_time = R.now ∧
      (R.usedId user_addr req srv wait r).total_time = int R.totalTime ∧
      ((R.usedId user_addr req srv wait r).timeout = R.retry_interval ∨
        (R.usedId user_addr req srv wait r).timeout = int R.totalTime) := by
  cases wait <;> simp [usedId, radiusIdEvent, totalTime]

/-- The total time that the parameters give is never negative. -/
theorem Kept.totalTime_nonneg (h : R.Kept) : 0 ≤ R.totalTime := by
  have htimes := h.times
  have hvice := h.vice
  exact Int.mul_nonneg (Int.mul_nonneg h.interval (by omega)) (by decide)

/-- A free id is taken for a new request. -/
theorem Kept.sockReq {s : SockRadius} {user_addr : UserAddr} {req : RadiusReq} {srv : RadiusSrv} {wait : Bool}
    (h : R.Kept) (hs : R.sockradius_list[k]? = some s) (hfree : (s.id i).status = .RADIUS_ID_FREE) :
    (R.sockRadiusReq k i user_addr req srv wait).Kept := by
  have hr : R.slot k i = some (s.id i) := by simp [slot, hs]
  have hlt : k < R.sockradius_list.length := (List.getElem?_eq_some_iff.mp hs).1
  have hnew := h.known R.requests (Nat.le_refl _)
  have hinterval := h.interval
  have htimes := h.times
  have hvice := h.vice
  have hint : int R.totalTime = R.totalTime := int_eq h.totalTime_nonneg h.total
  obtain ⟨hused, htimer, hreq, hrc, hvc, hstart, htotal, htimeout⟩ := @Radius.usedId_wait R (s.id i) user_addr
      { req with number := R.requests } srv wait
  rw [sockRadiusReq, hs]
  refine @Radius.Kept.update _ _ _ _ _ (R.usedId user_addr { req with number := R.requests } srv wait (s.id i)) h hr
      ?_ rfl rfl rfl (Nat.le_succ _) (Int.le_refl _) (fun _ => .inr (by rw [hreq])) ?_ ?_ ?_
  · intro k' i'
    by_cases hk : k' = k
    · subst hk
      by_cases hi : i' = i
      · subst hi
        simp [slot, hlt]
      · have hget : R.sockradius_list[k'] = s := (List.getElem?_eq_some_iff.mp hs).2
        simp [slot, hlt, hget, hi]
    · simp [slot, hk, Ne.symm hk]
  · intro q hq
    have hq := hq hused
    rw [hreq] at hq
    simp [RadiusLog.isSent, RadiusLog.isBackup, Ne.symm hq]
  · refine ⟨⟨fun hf => ?_, fun hf => absurd hf htimer⟩, fun _ => ?_, ?_, fun _ => ?_, fun _ _ => hused,
      fun _ => ⟨?_, ?_, ?_, ?_, ?_, ?_⟩⟩
    · rw [hused] at hf
      cases hf
    · obtain htimeout | htimeout := htimeout
      · rw [htimeout]
        exact hinterval
      · rw [htimeout, hint]
        exact h.totalTime_nonneg
    · rw [htotal, hint]
      exact h.total
    · rw [hstart]
    · rw [hreq]
      exact Nat.lt_succ_self _
    · rw [hreq, hrc, hvc]
      simp [RadiusLog.isSent, hnew.1]
    · rw [hreq, hvc]
      simp [RadiusLog.isBackup, hnew.2]
    · rw [hrc]
      exact htimes
    · rw [hvc]
      exact hvice
    · intro hne
      exact absurd hvc hne
  · refine ⟨?_, fun _ => ?_, hfree, h.log⟩
    · simp [RadiusLog.isSent, hnew.1]
      omega
    · simp [RadiusLog.isBackup, hnew.2]

/-- A new socket has free ids only. -/
theorem Kept.sock (h : R.Kept) :
    ({ R with sockradius_list := R.sockradius_list ++ [({} : SockRadius)] } : Radius).Kept := by
  have hslot : ∀ k i r, ({ R with sockradius_list := R.sockradius_list ++ [({} : SockRadius)] } : Radius).slot k i =
      some r → R.slot k i = some r ∨ r = {} := by
    intro k i r hr
    rw [slot] at hr ⊢
    by_cases hk : k < R.sockradius_list.length
    · rw [List.getElem?_append_left hk] at hr
      exact .inl hr
    · rw [List.getElem?_append_right (by omega)] at hr
      cases hd : k - R.sockradius_list.length with
      | zero =>
        rw [hd] at hr
        exact .inr (by simpa using hr.symm)
      | succ n => simp [hd] at hr
  refine ⟨h.interval, h.times, h.vice, h.total, ?_, ?_, h.known, h.log⟩
  · intro k i r hr
    obtain hold | rfl := hslot k i r hr
    · have hg := h.good k i r hold
      exact hg.frame rfl rfl (Nat.le_refl _) (Int.le_refl _) (fun _ => rfl) fun _ => rfl
    · exact ⟨by simp, by simp, by simp, by simp, by simp, by simp⟩
  · intro k i r k' i' r' hr hr' hu hu' heq
    obtain hold | rfl := hslot k i r hr
    · obtain hold' | rfl := hslot k' i' r' hr'
      · exact h.apart k i r k' i' r' hold hold' hu hu' heq
      · cases hu'
    · cases hu

theorem Kept.radiusReq {user_addr : UserAddr} {req : RadiusReq} {srv : RadiusSrv} {wait mem : Bool}
    (h : R.Kept) : (R.radiusReq user_addr req srv wait mem).Kept := by
  rw [Radius.radiusReq]
  cases hfree : freeId R.sockradius_list with
  | some x =>
    obtain ⟨s, hs, hi⟩ := freeId_free hfree
    exact h.sockReq hs hi
  | none =>
    dsimp only
    split
    · exact h.sock.sockReq (s := {}) (by simp) rfl
    · exact h

/-- The parameters are changed while no request is out. -/
theorem Kept.setRetryParams {n t v : Int} (h : R.Kept) (hn : 0 ≤ n) (ht : 0 ≤ t) (hv : 0 ≤ v)
    (htotal : n * (t + v + 1) * 2 < 2 ^ 31) (hout : ∀ k i r, R.slot k i = some r → r.status ≠ .RADIUS_ID_USED) :
    (R.setRetryParams n t v).Kept := by
  refine ⟨hn, ht, hv, htotal, fun k i r hr => ?_, h.apart, h.known, h.log⟩
  have hg := h.good k i r hr
  exact ⟨hg.timer, hg.timeout, hg.total, hg.started, hg.retried, fun hused => absurd hused (hout k i r hr)⟩

theorem Kept.tick (h : R.Kept) : ({ R with now := R.now + 1 } : Radius).Kept := by
  refine ⟨h.interval, h.times, h.vice, h.total, fun k i r hr => ?_, h.apart, h.known, h.log⟩
  exact (h.good k i r hr).frame rfl rfl (Nat.le_refl _) (Int.le_add_one (Int.le_refl _)) (fun _ => rfl)
    fun _ => rfl

/-- `eag_radius_new`. -/
def new (now : Int) : Radius := ⟨4, 1, 1, [], 0, now, []⟩

theorem kept_new (now : Int) : (new now).Kept := by
  refine ⟨by simp [new], by simp [new], by simp [new], by simp [new, totalTime], ?_, ?_, fun _ _ => ⟨rfl, rfl⟩,
    trivial⟩
  · intro k i r hr
    cases hr
  · intro k i r k' i' r' hr
    cases hr

end

end Radius

namespace RadiusOp

/-- The condition on a step: the parameters are not negative, the total time that follows from them is an
`int`, and they do not change while a request is out; a reply that is accepted is of the kind of the request; and an id is given up, by a reply or after the last
retry, not later than its time. -/
def Ok (md5 : Digest) (R : Radius) : RadiusOp → Prop
  | setRetryParams n t v => 0 ≤ n ∧ 0 ≤ t ∧ 0 ≤ v ∧ n * (t + v + 1) * 2 < 2 ^ 31 ∧
    ∀ k i r, R.slot k i = some r → r.status ≠ .RADIUS_ID_USED
  | reply k packet nbyte radius_ip radius_port =>
    ∀ r, R.answeredId md5 k packet nbyte radius_ip radius_port = some r →
      RadiusLog.Fits (packet 0) r.req_packet.code ∧ R.now ≤ r.total_time + r.start_time
  | timer k i => ∀ r, R.dueId k i = some (r, .RADIUS_ID_RETRY_TIMEOUT) → R.retry_times ≤ r.retry_count →
    R.vice_retry_times ≤ r.vice_retry_count → R.now ≤ r.total_time + r.start_time
  | _ => True

/-- One step. -/
theorem step_kept {md5 : Digest} (R : Radius) (op : RadiusOp) (h : R.Kept) (hok : op.Ok md5 R) :
    (op.step md5 R).Kept := by
  cases op with
  | req user_addr packet srv wait mem => exact h.radiusReq
  | reply k packet nbyte ip port =>
    rw [step]
    cases hid : R.answeredId md5 k packet nbyte ip port with
    | none => exact h
    | some r => exact h.answer hid (hok r hid).1 (hok r hid).2
  | timer k i =>
    rw [step]
    cases hdue : R.dueId k i with
    | none => exact h
    | some x =>
      obtain ⟨r, t⟩ := x
      obtain ⟨hr, due, ht⟩ := Radius.slot_of_dueId hdue
      cases t with
      | RADIUS_ID_RETRY_TIMEOUT => exact h.retry hr ((h.good k i r hr).retried due ht) (hok r hdue)
      | RADIUS_ID_STATUS_TIMEOUT => exact h.statusTimeout hr
  | setRetryParams n t v => exact h.setRetryParams hok.1 hok.2.1 hok.2.2.1 hok.2.2.2.1 hok.2.2.2.2
  | tick => exact h.tick

/-- The Access-Accept of the server for the id 0 of a request like that. -/
def sampleAccept (md5 : Digest) : Packet :=
  radiusAuthrespAuthenticator md5
    (fun n => if n = 0 then RADIUS_CODE_ACCESS_ACCEPT else if n = 3 then 20 else 0)
    (List.replicate RADIUS_AUTHLEN 0) [1]

/-- The digest of `md5.c`, which the two programs share. -/
def digest : Digest := fun l => ⟨(Pppoe.Md5.md5 l).toArray, by simp [Pppoe.Md5.md5, Pppoe.Md5.leBytes]⟩

end RadiusOp

end Eag
end DaemonGroup
