import DaemonGroup.Eag.RadiusAttr
import DaemonGroup.Lib.Run
import Mathlib.Algebra.Order.Ring.Nat
import Mathlib.Data.List.Nodup

/-!
# DaemonGroup.Eag.Userconn

The records of users in the RADIUS proxy (`rdc_server.c`, `rdc_userconn.c`). `rdc_server_record_userconn` searches
an Accounting-Request, which nobody has authenticated, for four attributes, and adds, touches or removes a record.

* `recorded_iff` — when the searches end and stay inside the packet and the values fit.
* `records_run` — what records there are after any sequence of requests. A name or a session id that is empty, and
  an address that is zero, match every record.

A copy that does not fit its buffer, and a string without an end in its field, have no result.
-/

namespace DaemonGroup
namespace Eag

open Lib Bytes Reads

def RDC_PACKET_HEADSIZE : Nat := 48
def RADIUS_HDRSIZE : Nat := 20
def RDC_PACKET_MINSIZE : Nat := RDC_PACKET_HEADSIZE + RADIUS_HDRSIZE
def RDC_PACKET_SIZE : Nat := 4096
def RADIUS_STATUS_TYPE_START : UInt32 := 1
def RADIUS_STATUS_TYPE_STOP : UInt32 := 2
def RADIUS_STATUS_TYPE_INTERIM_UPDATE : UInt32 := 3
def MAX_SESSION_ID_LEN : Nat := 32

/-- The RADIUS packet in a packet of the proxy. -/
def radpkt (rdcpkt : Packet) : Packet := fun i => rdcpkt (RDC_PACKET_HEADSIZE + i)

/-- `server_receive` takes the packet, and it goes to `rdc_server_record_userconn`. -/
def serverAccepts (rdcpkt : Packet) (nbyte : Nat) : Prop :=
  RDC_PACKET_MINSIZE ≤ nbyte ∧ nbyte ≤ RDC_PACKET_SIZE ∧
    nbyte = radiusLength (radpkt rdcpkt) + RDC_PACKET_HEADSIZE ∧
    radpkt rdcpkt 0 = RADIUS_CODE_ACCOUNTING_REQUEST

instance (rdcpkt : Packet) (nbyte : Nat) : Decidable (serverAccepts rdcpkt nbyte) :=
  inferInstanceAs (Decidable (_ ∧ _))

/-! ## The attributes of a request -/

/-- The values that `rdc_server_record_userconn` takes from the packet; what is absent is empty or zero. -/
structure AcctAttrs where
  user_name : List UInt8
  user_ip : UInt32
  sessionid : List UInt8
  acct_state : Option UInt32
deriving DecidableEq, Repr

/-- A value as a string in a buffer of `size` octets. -/
def bufferStr (size : Nat) (value : List UInt8) : Option (List UInt8) :=
  if value.length ≤ size ∧ (value.takeWhile (· ≠ 0)).length < size then some (value.takeWhile (· ≠ 0)) else none

section
variable (pack : Packet)

/-- `attr->l - 2` octets of the value are copied to a buffer that was empty. -/
def textAttr (type : UInt8) (size : Nat) : Option (List UInt8) :=
  (findAttr pack type 0 0).bind fun found =>
    match found with
    | none => some []
    | some t =>
      if pack (t + 1) < 2 then none
      else bufferStr size (read pack (t + 2) ((pack (t + 1)).toNat - 2))

/-- `ntohl(attr->v.i)`. -/
def wordAttr (type : UInt8) : Option (Option UInt32) :=
  (findAttr pack type 0 0).map fun found => found.map fun t => ntohlAt pack (t + 2)

def acctAttrs : Option AcctAttrs := do
  let user_name ← textAttr pack RADIUS_ATTR_USER_NAME USERNAMESIZE
  let user_ip ← wordAttr pack RADIUS_ATTR_FRAMED_IP_ADDRESS
  let sessionid ← textAttr pack RADIUS_ATTR_ACCT_SESSION_ID MAX_SESSION_ID_LEN
  let acct_state ← wordAttr pack RADIUS_ATTR_ACCT_STATUS_TYPE
  pure ⟨user_name, user_ip.getD 0, sessionid, acct_state⟩

/-- The `attr->l - 2` octets of the attribute at `t` are a number of octets inside the packet, and fit a buffer of
`size` octets. -/
def CopyFits (size t : Nat) : Prop :=
  let count : Int := (pack (t + 1)).toNat - 2
  0 ≤ count ∧ count ≤ size ∧ t + 2 + count ≤ radiusLength pack

/-- The four octets of `attr->v.i` are inside the attribute and the packet. -/
def WordFits (t : Nat) : Prop := 6 ≤ (pack (t + 1)).toNat ∧ t + 6 ≤ radiusLength pack

/-- All searches of `rdc_server_record_userconn` end and read inside the packet, and all values fit. -/
structure RecordBounded : Prop where
  user_name : Scanned pack RADIUS_ATTR_USER_NAME (radiusLength pack) (CopyFits pack USERNAMESIZE)
  user_ip : Scanned pack RADIUS_ATTR_FRAMED_IP_ADDRESS (radiusLength pack) (WordFits pack)
  sessionid : Scanned pack RADIUS_ATTR_ACCT_SESSION_ID (radiusLength pack) (CopyFits pack MAX_SESSION_ID_LEN)
  acct_state : Scanned pack RADIUS_ATTR_ACCT_STATUS_TYPE (radiusLength pack) (WordFits pack)

/-- Up to the first attribute of each of the four types, the attributes have their heads inside the packet and
those that are passed over do not have length zero; the first one of each type is inside the packet with its value
and long enough, and the first session id is not too long. -/
structure RecordReadable : Prop where
  user_name : Readable pack RADIUS_ATTR_USER_NAME (radiusLength pack) fun t =>
    2 ≤ (pack (t + 1)).toNat ∧ t + (pack (t + 1)).toNat ≤ radiusLength pack
  user_ip : Readable pack RADIUS_ATTR_FRAMED_IP_ADDRESS (radiusLength pack) fun t =>
    6 ≤ (pack (t + 1)).toNat ∧ t + 6 ≤ radiusLength pack
  sessionid : Readable pack RADIUS_ATTR_ACCT_SESSION_ID (radiusLength pack) fun t =>
    2 ≤ (pack (t + 1)).toNat ∧ (pack (t + 1)).toNat ≤ 34 ∧ t + (pack (t + 1)).toNat ≤ radiusLength pack
  acct_state : Readable pack RADIUS_ATTR_ACCT_STATUS_TYPE (radiusLength pack) fun t =>
    6 ≤ (pack (t + 1)).toNat ∧ t + 6 ≤ radiusLength pack

end

section
variable {pack : Packet}

theorem copyFits_name {t : Nat} : CopyFits pack USERNAMESIZE t ↔
    2 ≤ (pack (t + 1)).toNat ∧ t + (pack (t + 1)).toNat ≤ radiusLength pack := by
  have hoctet := (pack (t + 1)).toNat_lt
  unfold CopyFits USERNAMESIZE
  dsimp only
  omega

theorem copyFits_sessionid {t : Nat} : CopyFits pack MAX_SESSION_ID_LEN t ↔
    2 ≤ (pack (t + 1)).toNat ∧ (pack (t + 1)).toNat ≤ 34 ∧ t + (pack (t + 1)).toNat ≤ radiusLength pack := by
  unfold CopyFits MAX_SESSION_ID_LEN
  dsimp only
  omega

/-- The searches end and stay inside the packet, and the values fit, exactly if the packet is readable. -/
theorem recorded_iff (pack : Packet) : RecordBounded pack ↔ RecordReadable pack := by
  have hname : CopyFits pack USERNAMESIZE = _ := funext fun t => propext copyFits_name
  have hsessionid : CopyFits pack MAX_SESSION_ID_LEN = _ := funext fun t => propext copyFits_sessionid
  constructor
  · rintro ⟨hn, hip, hs, hst⟩
    rw [hname] at hn
    rw [hsessionid] at hs
    exact ⟨(scanned_iff (by decide)).mp hn, (scanned_iff (by decide)).mp hip, (scanned_iff (by decide)).mp hs,
      (scanned_iff (by decide)).mp hst⟩
  · rintro ⟨hn, hip, hs, hst⟩
    rw [← hname] at hn
    rw [← hsessionid] at hs
    exact ⟨(scanned_iff (by decide)).mpr hn, (scanned_iff (by decide)).mpr hip, (scanned_iff (by decide)).mpr hs,
      (scanned_iff (by decide)).mpr hst⟩

/-- An Accounting-Request whose first attribute has length zero: the search for the name does not end. -/
theorem zero_length_hangs : ¬ ∀ rdcpkt nbyte, serverAccepts rdcpkt nbyte → RecordBounded (radpkt rdcpkt) := by
  intro h
  let rdcpkt : Packet := fun i => if i = 48 then 4 else if i = 51 then 22 else if i = 68 then 8 else 0
  have hb := h rdcpkt 70 (by decide)
  obtain ⟨fuel, r, hval, -, -⟩ := hb.user_name
  have hstuck := @getnextattr_stuck (radpkt rdcpkt) RADIUS_ATTR_USER_NAME 0 0 0 fuel (by decide) (by decide)
      (by decide)
  rw [radiusGetattr, map_val, hstuck] at hval
  cases hval

end


/-! ## The records -/

/-- `struct rdc_userconn`. -/
structure Userconn where
  username : List UInt8
  sessionid : List UInt8
  user_ip : UInt32
  client_ip : UInt32
  client_coa_port : UInt16
  start_time : UInt32
  last_time : UInt32
  acct_status : UInt32
deriving DecidableEq, Repr

/-- What a new item holds, as far as it is not written: the last octets of the two strings, the client and the
status. A new block is not cleared. -/
structure UserconnItem where
  username_end : UInt8
  sessionid_end : UInt8
  client_ip : UInt32
  client_coa_port : UInt16
  acct_status : UInt32
deriving DecidableEq, Repr

/-- An Accounting-Request: the packet, where it came from, the time, and the item that
`eag_blkmem_malloc_item` gives. -/
structure AcctOp where
  radpkt : Packet
  ip : UInt32
  coa_port : UInt16
  timenow : UInt32
  item : Option UserconnItem

/-- `rdc_userconn_set_client`. -/
def rdcUserconnSetClient (c : Userconn) (client_ip : UInt32) (client_coa_port : UInt16) : Userconn :=
  if client_ip = 0 ∨ client_coa_port = 0 then c
  else { c with client_ip := client_ip, client_coa_port := client_coa_port }

/-- `rdc_userconn_set_last_acct_status`. -/
def rdcUserconnSetLastAcctStatus (c : Userconn) (acct_status : UInt32) : Userconn :=
  if acct_status = RADIUS_STATUS_TYPE_START ∨ acct_status = RADIUS_STATUS_TYPE_STOP ∨
      acct_status = RADIUS_STATUS_TYPE_INTERIM_UPDATE then { c with acct_status := acct_status }
  else c

/-- `strncpy` to a field of `size` octets, all but the last one of them. -/
def fieldStr (size : Nat) (last : UInt8) (s : List UInt8) : Option (List UInt8) :=
  if s.length < size - 1 ∨ last = 0 then some (s.take (size - 1)) else none

/-- `rdc_userconn_new`. -/
def rdcUserconnNew (item : UserconnItem) (username sessionid : List UInt8) (userip : UInt32) : Option Userconn :=
  (fieldStr USERNAMESIZE item.username_end username).bind fun username =>
    (fieldStr MAX_SESSION_ID_LEN item.sessionid_end sessionid).map fun sessionid =>
      ⟨username, sessionid, userip, item.client_ip, item.client_coa_port, 0, 0, item.acct_status⟩

/-- `rdc_userconn_db_find_user` takes the record: what is empty or zero is not compared. -/
def Fits (username sessionid : List UInt8) (ip : UInt32) (c : Userconn) : Prop :=
  (sessionid = [] ∨ sessionid = c.sessionid) ∧ (username = [] ∨ username = c.username) ∧ (ip = 0 ∨ c.user_ip = ip)

instance (username sessionid : List UInt8) (ip : UInt32) (c : Userconn) :
    Decidable (Fits username sessionid ip c) := inferInstanceAs (Decidable (_ ∧ _))

/-- `rdc_userconn_db_find_user`: the place of the record. -/
def rdcUserconnDbFindUser (db : List Userconn) (username sessionid : List UInt8) (ip : UInt32) : Option Nat :=
  db.findIdx? fun c => Fits username sessionid ip c

/-- `rdc_userconn_db_find_sessionid`. -/
def rdcUserconnDbFindSessionid (db : List Userconn) (sessionid : List UInt8) : Option Nat :=
  db.findIdx? fun c => sessionid = c.sessionid

/-- `rdc_server_record_userconn` behind the searches. -/
def recordAttrs (db : List Userconn) (op : AcctOp) (q : AcctAttrs) : Option (List Userconn) :=
  match q.acct_state with
  | none => some db
  | some acct_state =>
    match rdcUserconnDbFindUser db q.user_name q.sessionid q.user_ip with
    | some i =>
      let db := db.modify i fun c => rdcUserconnSetLastAcctStatus { c with last_time := op.timenow } acct_state
      some (if acct_state = RADIUS_STATUS_TYPE_STOP then db.eraseIdx i else db)
    | none =>
      if acct_state = RADIUS_STATUS_TYPE_STOP then some db
      else match rdcUserconnDbFindSessionid db q.sessionid with
        | some _ => some db
        | none =>
          match op.item with
          | none => some db
          | some item =>
            (rdcUserconnNew item q.user_name q.sessionid q.user_ip).map fun c =>
              let c := rdcUserconnSetClient c op.ip op.coa_port
              db ++ [rdcUserconnSetLastAcctStatus { c with start_time := op.timenow, last_time := op.timenow } acct_state]

/-- `rdc_server_record_userconn`. -/
def rdcServerRecordUserconn (db : List Userconn) (op : AcctOp) : Option (List Userconn) :=
  (acctAttrs op.radpkt).bind (recordAttrs db op)

/-! ## What a request does -/

/-- The database after a request is one of these. -/
inductive Recorded (q : AcctAttrs) (op : AcctOp) (db : List Userconn) : List Userconn → Prop
  | unread (hst : q.acct_state = none) : Recorded q op db db
  | unmatched (hst : q.acct_state = some RADIUS_STATUS_TYPE_STOP)
      (hnone : ∀ c ∈ db, ¬ Fits q.user_name q.sessionid q.user_ip c) : Recorded q op db db
  | ignored {st : UInt32} (hst : q.acct_state = some st) (hstop : st ≠ RADIUS_STATUS_TYPE_STOP)
      (hold : (∃ c ∈ db, c.sessionid = q.sessionid) ∨ op.item = none) : Recorded q op db db
  | touched {st : UInt32} {l r : List Userconn} {c c' : Userconn} (hst : q.acct_state = some st)
      (hstop : st ≠ RADIUS_STATUS_TYPE_STOP) (hdb : db = l ++ c :: r)
      (hfits : Fits q.user_name q.sessionid q.user_ip c) (hsame : c'.username = c.username ∧
        c'.sessionid = c.sessionid ∧ c'.user_ip = c.user_ip ∧ c'.client_ip = c.client_ip ∧
        c'.client_coa_port = c.client_coa_port) : Recorded q op db (l ++ c' :: r)
  | removed {l r : List Userconn} {c : Userconn} (hst : q.acct_state = some RADIUS_STATUS_TYPE_STOP)
      (hdb : db = l ++ c :: r) (hfits : Fits q.user_name q.sessionid q.user_ip c) : Recorded q op db (l ++ r)
  | added {st : UInt32} {c : Userconn} (hst : q.acct_state = some st) (hstop : st ≠ RADIUS_STATUS_TYPE_STOP)
      (hnew : ∀ c ∈ db, c.sessionid ≠ q.sessionid) (hc : c.username = q.user_name ∧ c.sessionid = q.sessionid ∧
        c.user_ip = q.user_ip) : Recorded q op db (db ++ [c])


section
variable {pack : Packet} {q : AcctAttrs} {op : AcctOp} {db db' : List Userconn}

theorem textAttr_length {type : UInt8} {size : Nat} {s : List UInt8} (hsize : 0 < size)
    (h : textAttr pack type size = some s) : s.length < size := by
  obtain ⟨found, -, hfound⟩ := Option.bind_eq_some_iff.mp h
  cases found with
  | none =>
    cases hfound
    exact hsize
  | some t =>
    simp only [bufferStr] at hfound
    split at hfound
    · cases hfound
    · split at hfound
      · rename_i hfit
        obtain rfl := Option.some.inj hfound
        exact hfit.2
      · cases hfound

theorem acctAttrs_lengths (h : acctAttrs pack = some q) :
    q.user_name.length < USERNAMESIZE ∧ q.sessionid.length < MAX_SESSION_ID_LEN := by
  obtain ⟨user_name, hname, h⟩ := Option.bind_eq_some_iff.mp h
  obtain ⟨user_ip, -, h⟩ := Option.bind_eq_some_iff.mp h
  obtain ⟨sessionid, hsessionid, h⟩ := Option.bind_eq_some_iff.mp h
  obtain ⟨acct_state, -, h⟩ := Option.bind_eq_some_iff.mp h
  obtain rfl := Option.some.inj h
  exact ⟨textAttr_length (by decide) hname, textAttr_length (by decide) hsessionid⟩

/-- The place that a search of the database gives. -/
theorem findIdx_split {p : Userconn → Bool} {i : Nat} (h : db.findIdx? p = some i) :
    ∃ l c r, db = l ++ c :: r ∧ i = l.length ∧ p c = true := by
  obtain ⟨hlt, hp, -⟩ := List.findIdx?_eq_some_iff_getElem.mp h
  refine ⟨db.take i, db[i], db.drop (i + 1), ?_, ?_, hp⟩
  · rw [List.getElem_cons_drop, List.take_append_drop]
  · rw [List.length_take, Nat.min_eq_left (Nat.le_of_lt hlt)]

theorem modify_place {f : Userconn → Userconn} {c : Userconn} {l r : List Userconn} :
    (l ++ c :: r).modify l.length f = l ++ f c :: r := by
  induction l with
  | nil => rfl
  | cons d l ih => rw [List.cons_append, List.length_cons, List.modify_succ_cons, ih, List.cons_append]

theorem set_status_same (c : Userconn) (st : UInt32) :
    (rdcUserconnSetLastAcctStatus c st).username = c.username ∧
    (rdcUserconnSetLastAcctStatus c st).sessionid = c.sessionid ∧
    (rdcUserconnSetLastAcctStatus c st).user_ip = c.user_ip ∧
    (rdcUserconnSetLastAcctStatus c st).client_ip = c.client_ip ∧
    (rdcUserconnSetLastAcctStatus c st).client_coa_port = c.client_coa_port := by
  unfold rdcUserconnSetLastAcctStatus
  split <;> exact ⟨rfl, rfl, rfl, rfl, rfl⟩

theorem set_client_same (c : Userconn) (ip : UInt32) (port : UInt16) :
    (rdcUserconnSetClient c ip port).username = c.username ∧
    (rdcUserconnSetClient c ip port).sessionid = c.sessionid ∧
    (rdcUserconnSetClient c ip port).user_ip = c.user_ip := by
  unfold rdcUserconnSetClient
  split <;> exact ⟨rfl, rfl, rfl⟩

/-- A string that fits with its end is stored as it is. -/
theorem fieldStr_eq {size : Nat} {last : UInt8} {s s' : List UInt8} (hs : s.length < size)
    (h : fieldStr size last s = some s') : s' = s := by
  unfold fieldStr at h
  split at h
  · rw [← Option.some.inj h]
    exact List.take_of_length_le (by omega)
  · cases h

theorem userconnNew_same {item : UserconnItem} {username sessionid : List UInt8} {ip : UInt32} {c : Userconn}
    (hname : username.length < USERNAMESIZE) (hsid : sessionid.length < MAX_SESSION_ID_LEN)
    (h : rdcUserconnNew item username sessionid ip = some c) :
    c.username = username ∧ c.sessionid = sessionid ∧ c.user_ip = ip := by
  obtain ⟨username', hn, h⟩ := Option.bind_eq_some_iff.mp h
  obtain ⟨sessionid', hs, rfl⟩ := Option.map_eq_some_iff.mp h
  exact ⟨fieldStr_eq hname hn, fieldStr_eq hsid hs, rfl⟩

theorem recordAttrs_cases (hname : q.user_name.length < USERNAMESIZE)
    (hsid : q.sessionid.length < MAX_SESSION_ID_LEN) (h : recordAttrs db op q = some db') :
    Recorded q op db db' := by
  unfold recordAttrs at h
  cases hst : q.acct_state with
  | none =>
    rw [hst] at h
    obtain rfl := Option.some.inj h
    exact .unread hst
  | some st =>
    rw [hst] at h
    cases hfind : rdcUserconnDbFindUser db q.user_name q.sessionid q.user_ip with
    | some i =>
      simp only [hfind] at h
      obtain ⟨l, c, r, rfl, rfl, hfits⟩ := findIdx_split hfind
      have hfits := of_decide_eq_true hfits
      rw [modify_place] at h
      obtain rfl := Option.some.inj h
      split
      · rename_i hstop
        subst hstop
        rw [List.eraseIdx_append_of_length_le (Nat.le_refl _), Nat.sub_self, List.eraseIdx_cons_zero]
        exact .removed hst rfl hfits
      · rename_i hstop
        exact .touched hst hstop rfl hfits (set_status_same _ st)
    | none =>
      simp only [hfind] at h
      split at h
      · rename_i hstop
        obtain rfl := Option.some.inj h
        refine .unmatched (hstop ▸ hst) ?_
        intro c hc
        simpa using List.findIdx?_eq_none_iff.mp hfind c hc
      · rename_i hstop
        cases hsame : rdcUserconnDbFindSessionid db q.sessionid with
        | some i =>
          simp only [hsame] at h
          obtain rfl := Option.some.inj h
          obtain ⟨l, c, r, rfl, -, hc⟩ := findIdx_split hsame
          exact .ignored hst hstop (.inl ⟨c, by simp, (of_decide_eq_true hc).symm⟩)
        | none =>
          simp only [hsame] at h
          cases hitem : op.item with
          | none =>
            rw [hitem] at h
            obtain rfl := Option.some.inj h
            exact .ignored hst hstop (.inr hitem)
          | some item =>
            rw [hitem] at h
            obtain ⟨c, hc, rfl⟩ := Option.map_eq_some_iff.mp h
            obtain ⟨h₁, h₂, h₃⟩ := userconnNew_same hname hsid hc
            obtain ⟨k₁, k₂, k₃⟩ := set_client_same c op.ip op.coa_port
            refine .added hst hstop ?_ ?_
            · intro c hc hne
              have := List.findIdx?_eq_none_iff.mp hsame c hc
              simp [hne] at this
            · obtain ⟨j₁, j₂, j₃, -, -⟩ := set_status_same { rdcUserconnSetClient c op.ip op.coa_port with
                start_time := op.timenow, last_time := op.timenow } st
              exact ⟨j₁.trans (k₁.trans h₁), j₂.trans (k₂.trans h₂), j₃.trans (k₃.trans h₃)⟩

end


/-! ## Sequences of requests -/

/-- No session id has two records. -/
def SessionsOnce (db : List Userconn) : Prop := (db.map (·.sessionid)).Nodup

/-- The status of the last request for the session `s`, after `op`. -/
def lastStatus (s : List UInt8) (st : Option UInt32) (op : AcctOp) : Option UInt32 :=
  (((acctAttrs op.radpkt).filter fun q => q.sessionid = s).bind (·.acct_state)).or st

/-- What the request says of the session `s` is of one user, and there is memory for its record; and it is no Stop
without a session id that matches the user. -/
def AcctOp.Regular (s u : List UInt8) (a : UInt32) (op : AcctOp) : Prop :=
  ∀ q, acctAttrs op.radpkt = some q →
    (q.sessionid = s → q.user_name = u ∧ q.user_ip = a ∧ op.item.isSome) ∧
    (q.acct_state = some RADIUS_STATUS_TYPE_STOP → q.sessionid = [] →
      ¬ ((q.user_name = [] ∨ q.user_name = u) ∧ (q.user_ip = 0 ∨ a = q.user_ip)))

instance (s u : List UInt8) (a : UInt32) (op : AcctOp) : Decidable (op.Regular s u a) :=
  match h : acctAttrs op.radpkt with
  | none => isTrue fun q hq => by rw [h] at hq; cases hq
  | some q => decidable_of_iff
      ((q.sessionid = s → q.user_name = u ∧ q.user_ip = a ∧ op.item.isSome) ∧
        (q.acct_state = some RADIUS_STATUS_TYPE_STOP → q.sessionid = [] →
          ¬ ((q.user_name = [] ∨ q.user_name = u) ∧ (q.user_ip = 0 ∨ a = q.user_ip))))
      ⟨fun hr q' hq => by rw [h] at hq; obtain rfl := Option.some.inj hq; exact hr, fun hr => hr q h⟩

/-- The records of the session `s` are of one user, and there is one exactly if the last status is not Stop. -/
structure Tracks (s u : List UInt8) (a : UInt32) (st : Option UInt32) (db : List Userconn) : Prop where
  user : ∀ c ∈ db, c.sessionid = s → c.username = u ∧ c.user_ip = a
  present : (∃ c ∈ db, c.sessionid = s) ↔ ∃ x, st = some x ∧ x ≠ RADIUS_STATUS_TYPE_STOP

section
variable {q : AcctAttrs} {op : AcctOp} {db db' : List Userconn} {s u : List UInt8} {a : UInt32}
  {st : Option UInt32}

theorem recorded_of_step (h : rdcServerRecordUserconn db op = some db') :
    ∃ q, acctAttrs op.radpkt = some q ∧ Recorded q op db db' := by
  obtain ⟨q, hq, hrec⟩ := Option.bind_eq_some_iff.mp h
  obtain ⟨hname, hsid⟩ := acctAttrs_lengths hq
  exact ⟨q, hq, recordAttrs_cases hname hsid hrec⟩

theorem SessionsOnce.eq {c c' : Userconn} (h : SessionsOnce db) (hc : c ∈ db) (hc' : c' ∈ db)
    (heq : c'.sessionid = c.sessionid) : c' = c :=
  List.inj_on_of_nodup_map h hc' hc heq

theorem sessionsOnce_nil : SessionsOnce [] := List.nodup_nil

theorem SessionsOnce.step (h : SessionsOnce db) (hrec : Recorded q op db db') : SessionsOnce db' := by
  unfold SessionsOnce at h ⊢
  cases hrec with
  | unread => exact h
  | unmatched => exact h
  | ignored => exact h
  | touched _ _ hdb _ hsame =>
    subst hdb
    rw [List.map_append, List.map_cons] at h ⊢
    rwa [hsame.2.1]
  | removed _ hdb _ =>
    subst hdb
    rw [List.map_append, List.map_cons] at h
    rw [List.map_append]
    exact (List.nodup_middle.mp h).of_cons
  | added _ _ hnew hc =>
    rw [List.map_append, List.map_singleton]
    refine List.nodup_append.mpr ⟨h, List.nodup_singleton _, ?_⟩
    intro x hx y hy
    obtain ⟨d, hd, rfl⟩ := List.mem_map.mp hx
    obtain rfl := List.mem_singleton.mp hy
    rw [hc.2.1]
    exact hnew d hd

/-- A record is gone only after a Stop that matches it. -/
theorem Recorded.gone {c : Userconn} (hrec : Recorded q op db db') (hc : c ∈ db)
    (hgone : ∀ c' ∈ db', c'.sessionid ≠ c.sessionid) :
    q.acct_state = some RADIUS_STATUS_TYPE_STOP ∧ Fits q.user_name q.sessionid q.user_ip c := by
  cases hrec with
  | unread => exact absurd rfl (hgone c hc)
  | unmatched => exact absurd rfl (hgone c hc)
  | ignored => exact absurd rfl (hgone c hc)
  | touched _ _ hdb _ hsame =>
    subst hdb
    exfalso
    rcases List.mem_append.mp hc with hl | hr
    · exact hgone c (List.mem_append_left _ hl) rfl
    · rcases List.mem_cons.mp hr with rfl | hr
      · exact hgone _ (List.mem_append_right _ (List.mem_cons_self ..)) hsame.2.1
      · exact hgone c (List.mem_append_right _ (List.mem_cons_of_mem _ hr)) rfl
  | removed hst hdb hfits =>
    subst hdb
    refine ⟨hst, ?_⟩
    rcases List.mem_append.mp hc with hl | hr
    · exact absurd rfl (hgone c (List.mem_append_left _ hl))
    · rcases List.mem_cons.mp hr with rfl | hr
      · exact hfits
      · exact absurd rfl (hgone c (List.mem_append_right _ hr))
  | added => exact absurd rfl (hgone c (List.mem_append_left _ hc))

/-- The client of a record stays as it is. -/
theorem Recorded.client {c c' : Userconn} (h : SessionsOnce db) (hrec : Recorded q op db db') (hc : c ∈ db)
    (hc' : c' ∈ db') (heq : c'.sessionid = c.sessionid) :
    c'.client_ip = c.client_ip ∧ c'.client_coa_port = c.client_coa_port := by
  have hold : c' ∈ db → c'.client_ip = c.client_ip ∧ c'.client_coa_port = c.client_coa_port := by
    intro hmem
    rw [h.eq hc hmem heq]
    exact ⟨rfl, rfl⟩
  cases hrec with
  | unread => exact hold hc'
  | unmatched => exact hold hc'
  | ignored => exact hold hc'
  | @touched _ l r d d' _ _ hdb _ hsame =>
    subst hdb
    rcases List.mem_append.mp hc' with hl | hr
    · exact hold (List.mem_append_left _ hl)
    · rcases List.mem_cons.mp hr with rfl | hr
      · have hd : d = c := h.eq hc (List.mem_append_right _ (List.mem_cons_self ..)) (hsame.2.1.symm.trans heq)
        rw [← hd]
        exact hsame.2.2.2
      · exact hold (List.mem_append_right _ (List.mem_cons_of_mem _ hr))
  | removed _ hdb _ =>
    subst hdb
    refine hold ?_
    rcases List.mem_append.mp hc' with hl | hr
    · exact List.mem_append_left _ hl
    · exact List.mem_append_right _ (List.mem_cons_of_mem _ hr)
  | added _ _ hnew hd =>
    rcases List.mem_append.mp hc' with hl | hr
    · exact hold hl
    · obtain rfl := List.mem_singleton.mp hr
      exact absurd (heq.symm.trans hd.2.1) (hnew c hc)

end


section
variable {q : AcctAttrs} {op : AcctOp} {db db' : List Userconn} {s u : List UInt8} {a : UInt32}
  {st : Option UInt32}

theorem lastStatus_own (hq : acctAttrs op.radpkt = some q) (hs : q.sessionid = s) :
    lastStatus s st op = q.acct_state.or st := by
  simp [lastStatus, hq, Option.filter, hs]

theorem lastStatus_other (hq : acctAttrs op.radpkt = some q) (hs : q.sessionid ≠ s) : lastStatus s st op = st := by
  simp [lastStatus, hq, Option.filter, hs]

/-- A request of the session itself. -/
theorem Tracks.own (hne : s ≠ []) (h : Tracks s u a st db) (honce : SessionsOnce db)
    (hreg : op.Regular s u a) (hq : acctAttrs op.radpkt = some q) (hs : q.sessionid = s)
    (hrec : Recorded q op db db') : Tracks s u a (lastStatus s st op) db' := by
  obtain ⟨hu, ha, hitem⟩ := (hreg q hq).1 hs
  have hfound : ∀ c, Fits q.user_name q.sessionid q.user_ip c → c.sessionid = s := by
    intro c hfits
    rcases hfits.1 with hnil | heq
    · exact absurd (hs.symm.trans hnil) hne
    · exact heq.symm.trans hs
  rw [lastStatus_own hq hs]
  cases hrec with
  | unread hst =>
    rw [hst]
    exact h
  | unmatched hst hnone =>
    refine ⟨h.user, ?_⟩
    rw [hst]
    constructor
    · rintro ⟨c, hc, hcs⟩
      obtain ⟨hcu, hca⟩ := h.user c hc hcs
      exact absurd ⟨.inr (hs.trans hcs.symm), .inr (hu.trans hcu.symm), .inr (hca.trans ha.symm)⟩ (hnone c hc)
    · rintro ⟨x, hx, hstop⟩
      exact absurd (Option.some.inj hx).symm hstop
  | ignored hst hstop hold =>
    refine ⟨h.user, ?_⟩
    rw [hst]
    refine iff_of_true ?_ ⟨_, rfl, hstop⟩
    rcases hold with ⟨c, hc, hcs⟩ | hnone
    · exact ⟨c, hc, hcs.trans hs⟩
    · rw [hnone] at hitem
      cases hitem
  | @touched _ l r c c' hst hstop hdb hfits hsame =>
    subst hdb
    have hcs := hfound c hfits
    rw [hst]
    constructor
    · intro d hd hds
      rcases List.mem_append.mp hd with hl | hr
      · exact h.user d (List.mem_append_left _ hl) hds
      · rcases List.mem_cons.mp hr with rfl | hr
        · rw [hsame.1, hsame.2.2.1]
          exact h.user c (List.mem_append_right _ (List.mem_cons_self ..)) hcs
        · exact h.user d (List.mem_append_right _ (List.mem_cons_of_mem _ hr)) hds
    · refine iff_of_true ?_ ⟨_, rfl, hstop⟩
      exact ⟨c', List.mem_append_right _ (List.mem_cons_self ..), hsame.2.1.trans hcs⟩
  | @removed l r c hst hdb hfits =>
    subst hdb
    have hcs := hfound c hfits
    have hsub : ∀ d ∈ l ++ r, d ∈ l ++ c :: r ∧ d.sessionid ≠ s := by
      intro d hd
      have hnodup := List.nodup_middle.mp (by simpa [SessionsOnce] using honce :
        (l.map (·.sessionid) ++ c.sessionid :: r.map (·.sessionid)).Nodup)
      refine ⟨?_, ?_⟩
      · rcases List.mem_append.mp hd with hl | hr
        · exact List.mem_append_left _ hl
        · exact List.mem_append_right _ (List.mem_cons_of_mem _ hr)
      · intro hds
        apply (List.nodup_cons.mp hnodup).1
        rw [← List.map_append, hcs, ← hds]
        exact List.mem_map_of_mem hd
    rw [hst]
    refine ⟨fun d hd => h.user d (hsub d hd).1, ?_⟩
    constructor
    · rintro ⟨d, hd, hds⟩
      exact absurd hds (hsub d hd).2
    · rintro ⟨x, hx, hstop⟩
      exact absurd (Option.some.inj hx).symm hstop
  | @added _ c hst hstop hnew hc =>
    rw [hst]
    constructor
    · intro d hd hds
      rcases List.mem_append.mp hd with hl | hr
      · exact h.user d hl hds
      · obtain rfl := List.mem_singleton.mp hr
        exact ⟨hc.1.trans hu, hc.2.2.trans ha⟩
    · refine iff_of_true ?_ ⟨_, rfl, hstop⟩
      exact ⟨c, List.mem_append_right _ (List.mem_singleton.mpr rfl), hc.2.1.trans hs⟩

/-- A request that is not one of the session leaves its record alone. -/
theorem Tracks.other (h : Tracks s u a st db) (hreg : op.Regular s u a) (hq : acctAttrs op.radpkt = some q)
    (hs : q.sessionid ≠ s) (hrec : Recorded q op db db') : Tracks s u a (lastStatus s st op) db' := by
  rw [lastStatus_other hq hs]
  cases hrec with
  | unread => exact h
  | unmatched => exact h
  | ignored => exact h
  | @touched _ l r c c' _ _ hdb _ hsame =>
    subst hdb
    have hiff : (∃ d ∈ l ++ c' :: r, d.sessionid = s) ↔ ∃ d ∈ l ++ c :: r, d.sessionid = s := by
      simp only [List.mem_append, List.mem_cons, or_and_right, exists_or, exists_eq_left, hsame.2.1]
    refine ⟨?_, hiff.trans h.present⟩
    intro d hd hds
    rcases List.mem_append.mp hd with hl | hr
    · exact h.user d (List.mem_append_left _ hl) hds
    · rcases List.mem_cons.mp hr with rfl | hr
      · rw [hsame.1, hsame.2.2.1]
        exact h.user c (List.mem_append_right _ (List.mem_cons_self ..)) (hsame.2.1.symm.trans hds)
      · exact h.user d (List.mem_append_right _ (List.mem_cons_of_mem _ hr)) hds
  | @removed l r c hst hdb hfits =>
    subst hdb
    have hcs : c.sessionid ≠ s := by
      intro hcs
      obtain ⟨hcu, hca⟩ := h.user c (List.mem_append_right _ (List.mem_cons_self ..)) hcs
      rcases hfits.1 with hnil | heq
      · refine (hreg q hq).2 hst hnil ⟨?_, ?_⟩
        · rw [← hcu]
          exact hfits.2.1
        · rw [← hca]
          exact hfits.2.2
      · exact hs (heq.trans hcs)
    have hiff : (∃ d ∈ l ++ r, d.sessionid = s) ↔ ∃ d ∈ l ++ c :: r, d.sessionid = s := by
      simp only [List.mem_append, List.mem_cons, or_and_right, exists_or, exists_eq_left, hcs, false_or]
    refine ⟨?_, hiff.trans h.present⟩
    intro d hd
    rcases List.mem_append.mp hd with hl | hr
    · exact h.user d (List.mem_append_left _ hl)
    · exact h.user d (List.mem_append_right _ (List.mem_cons_of_mem _ hr))
  | @added _ c _ _ _ hc =>
    have hcs : c.sessionid ≠ s := fun hcs => hs (hc.2.1.symm.trans hcs)
    have hiff : (∃ d ∈ db ++ [c], d.sessionid = s) ↔ ∃ d ∈ db, d.sessionid = s := by
      simp only [List.mem_append, List.mem_singleton, or_and_right, exists_or, exists_eq_left, hcs, or_false]
    refine ⟨?_, hiff.trans h.present⟩
    intro d hd hds
    rcases List.mem_append.mp hd with hl | hr
    · exact h.user d hl hds
    · obtain rfl := List.mem_singleton.mp hr
      exact absurd hds hcs

theorem Tracks.run (hne : s ≠ []) {ops : List AcctOp} (hreg : ∀ op ∈ ops, op.Regular s u a)
    (honce : SessionsOnce db) (h : Tracks s u a st db)
    (hrun : tryRun rdcServerRecordUserconn db ops = some db') :
    Tracks s u a (ops.foldl (lastStatus s) st) db' := by
  induction ops generalizing db st with
  | nil =>
    cases hrun
    exact h
  | cons op ops ih =>
    obtain ⟨db₁, hstep, hrest⟩ := Option.bind_eq_some_iff.mp hrun
    obtain ⟨q, hq, hrec⟩ := recorded_of_step hstep
    have hop := hreg op (List.mem_cons_self ..)
    refine ih (fun o ho => hreg o (List.mem_cons_of_mem _ ho)) (honce.step hrec) ?_ hrest
    by_cases hs : q.sessionid = s
    · exact h.own hne honce hop hq hs hrec
    · exact h.other hop hq hs hrec

theorem once_run {ops : List AcctOp} (hrun : tryRun rdcServerRecordUserconn [] ops = some db) : SessionsOnce db := by
  refine tryRun_inv (fun db op db' honce hstep => ?_) sessionsOnce_nil hrun
  obtain ⟨q, -, hrec⟩ := recorded_of_step hstep
  exact honce.step hrec

/-- The records after any sequence of requests: one for each session id; a record is gone only after a Stop that
matches it, in all that the Stop carries; the client of a record stays; and the record of a session of one user is
there exactly if its last request was no Stop. -/
theorem records_run (ops : List AcctOp) (db : List Userconn)
    (hrun : tryRun rdcServerRecordUserconn [] ops = some db) :
    (db.map (·.sessionid)).Nodup ∧
    (∀ op q db', acctAttrs op.radpkt = some q → rdcServerRecordUserconn db op = some db' →
      (∀ c ∈ db, (∀ c' ∈ db', c'.sessionid ≠ c.sessionid) →
        q.acct_state = some RADIUS_STATUS_TYPE_STOP ∧ Fits q.user_name q.sessionid q.user_ip c) ∧
      (∀ c ∈ db, ∀ c' ∈ db', c'.sessionid = c.sessionid →
        c'.client_ip = c.client_ip ∧ c'.client_coa_port = c.client_coa_port)) ∧
    (∀ s u a, s ≠ [] → (∀ op ∈ ops, op.Regular s u a) →
      ((∃ c ∈ db, c.sessionid = s) ↔
        ∃ st, ops.foldl (lastStatus s) none = some st ∧ st ≠ RADIUS_STATUS_TYPE_STOP)) := by
  have honce := once_run hrun
  refine ⟨honce, ?_, ?_⟩
  · intro op q db' hq hstep
    obtain ⟨q', hq', hrec⟩ := recorded_of_step hstep
    rw [hq] at hq'
    obtain rfl := Option.some.inj hq'
    exact ⟨fun c hc hgone => hrec.gone hc hgone, fun c hc c' hc' heq => hrec.client honce hc hc' heq⟩
  · intro s u a hne hreg
    have hinit : Tracks s u a none [] := by
      constructor
      · intro c hc
        cases hc
      · constructor
        · rintro ⟨c, hc, -⟩
          cases hc
        · rintro ⟨x, hx, -⟩
          cases hx
    exact (Tracks.run hne hreg sessionsOnce_nil hinit hrun).present

end


/-- An Accounting-Request with the octets `attrs` behind its head. -/
def acctPacket (attrs : List UInt8) : Packet := fun i =>
  ([4, 0, 0, UInt8.ofNat (20 + attrs.length)] ++ List.replicate 16 0 ++ attrs).getD i 0

/-- A request about the user "alice" at 10.0.0.1, in the session "s". -/
def ofAlice (status : UInt8) (timenow : UInt32) : AcctOp :=
  ⟨acctPacket [1, 7, 97, 108, 105, 99, 101, 8, 6, 10, 0, 0, 1, 44, 3, 115, 40, 6, 0, 0, 0, status], 1, 3799, timenow,
    some ⟨0, 0, 0, 0, 0⟩⟩

/-- A Start of the user "bob" at 10.0.0.2, in the session "t". -/
def startBob : AcctOp :=
  ⟨acctPacket [1, 5, 98, 111, 98, 8, 6, 10, 0, 0, 2, 44, 3, 116, 40, 6, 0, 0, 0, 1], 1, 3799, 110,
    some ⟨0, 0, 0, 0, 0⟩⟩

/-- A Stop that carries the name "alice" only. -/
def stopAlice : AcctOp := ⟨acctPacket [1, 7, 97, 108, 105, 99, 101, 40, 6, 0, 0, 0, 2], 2, 3799, 200, none⟩

/-- The record of bob's session. -/
def bobsRecord : Userconn := ⟨[98, 111, 98], [116], 0x0a000002, 1, 3799, 110, 110, 1⟩

/-- Start, Interim, the Start of another user, the first Start once more, and the Stop. -/
def acctOfTwo : List AcctOp := [ofAlice 1 100, ofAlice 3 105, startBob, ofAlice 1 120, ofAlice 2 130]

theorem records_run_alice :
    tryRun rdcServerRecordUserconn [] acctOfTwo = some [bobsRecord] ∧
      (∃ c ∈ [bobsRecord], c.sessionid = [116]) ∧ ¬ ∃ c ∈ [bobsRecord], c.sessionid = [115] := by
  have hrun : tryRun rdcServerRecordUserconn [] acctOfTwo = some [bobsRecord] := by decide +kernel
  have hbob : ∀ op ∈ acctOfTwo, op.Regular [116] [98, 111, 98] 0x0a000002 := by decide +kernel
  have halice : ∀ op ∈ acctOfTwo, op.Regular [115] [97, 108, 105, 99, 101] 0x0a000001 := by decide +kernel
  obtain ⟨-, -, hpresent⟩ := records_run acctOfTwo [bobsRecord] hrun
  refine ⟨hrun, (hpresent _ _ _ (by decide) hbob).mpr ⟨1, by decide +kernel, by decide⟩, fun hleft => ?_⟩
  obtain ⟨st, hst, hnot⟩ := (hpresent _ _ _ (by decide) halice).mp hleft
  have hstop : acctOfTwo.foldl (lastStatus [115]) none = some RADIUS_STATUS_TYPE_STOP := by decide +kernel
  rw [hst] at hstop
  exact hnot (Option.some.inj hstop)

/-- The Stop without a session id and without an address removes the record. -/
theorem bare_stop_removes : ¬ ∀ ops op q db db', tryRun rdcServerRecordUserconn [] ops = some db →
    acctAttrs op.radpkt = some q → rdcServerRecordUserconn db op = some db' →
    ∀ c ∈ db, (∀ c' ∈ db', c'.sessionid ≠ c.sessionid) →
      q.user_name = c.username ∧ q.sessionid = c.sessionid ∧ q.user_ip = c.user_ip := by
  intro h
  have hbad := h [ofAlice 1 100] stopAlice ⟨[97, 108, 105, 99, 101], 0, [], some 2⟩
    [⟨[97, 108, 105, 99, 101], [115], 0x0a000001, 1, 3799, 100, 100, 1⟩] [] (by decide +kernel) (by decide +kernel)
    (by decide +kernel) _ (List.mem_singleton.mpr rfl) fun c' hc' => absurd hc' List.not_mem_nil
  exact absurd hbad.2.1 (by decide)

end Eag
end DaemonGroup
