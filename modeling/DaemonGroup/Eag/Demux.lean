import DaemonGroup.Eag.Rdc
import DaemonGroup.Lib.Run
import Mathlib.Data.List.Basic

/-!
# DaemonGroup.Eag.Demux

The proxy in every run. The entries of the sockets and the packet connections point at each other, an id of
a socket belongs to one packet connection, what comes in on a socket goes to the client that holds the id,
and an id that was given up is not taken again before its wait is over. All of this holds whatever happens.

What the source does not see to is where a response comes from: it is right in a run exactly if the responses
come from servers that the client named (`RdcOp.demux_iff`).
-/

namespace DaemonGroup
namespace Eag

open Lib

/-- What the log may say. -/
def RdcLog.Right : RdcLog → Prop
  | forwarded client server owners => ∃ c, owners = [c] ∧ client = c.client ∧ server ∈ c.named
  | taken waited now => ∀ t, waited = some t → t ≤ now

namespace Rdc

/-- The entry points to a packet connection of the database that points back. -/
def Points (R : Rdc) (s : Nat) (i : UInt8) (e : RdcId) : Prop :=
  ∃ p c, e.pktconn = some p ∧ p ∈ R.db ∧ R.conn p = some c ∧ c.sockclient = some s ∧ c.id = i

/-- What the proxy is to be. -/
structure Sound (R : Rdc) : Prop where
  used : ∀ s i e, R.entry s i = some e → (e.status = .RDC_ID_USED ↔ R.Points s i e)
  apart : ∀ p q c d s, p ∈ R.db → q ∈ R.db → R.conn p = some c → R.conn q = some d →
    c.sockclient = some s → d.sockclient = some s → c.id = d.id → p = q
  log : ∀ x ∈ R.log, x.Right

/-- What an entry is. -/
def EntryOk (R : Rdc) (s : Nat) (i : UInt8) (e : RdcId) : Prop :=
  (e.status = .RDC_ID_FREE ∧ e.pktconn = none ∧ e.t_timeout = none ∧ ∀ t, e.waited = some t → t ≤ R.now) ∨
  (e.status = .RDC_ID_USED ∧ e.t_timeout = none ∧ R.Points s i e) ∨
  (e.status = .RDC_ID_WAIT ∧ e.pktconn = none ∧ e.t_timeout = e.waited)

/-- The invariant. -/
structure Kept (R : Rdc) : Prop where
  entries : ∀ s i e, R.entry s i = some e → R.EntryOk s i e
  held : ∀ p c s, p ∈ R.db → R.conn p = some c → c.sockclient = some s →
    ∃ e, R.entry s c.id = some e ∧ e.status = .RDC_ID_USED ∧ e.pktconn = some p
  live : ∀ p, p ∈ R.db → ∃ c, R.conn p = some c
  nodup : R.db.Nodup
  idle : R.status = false → R.db = [] ∧ R.serving = false
  log : ∀ x ∈ R.log, x.Right

section
variable {R R' : Rdc} {s t p q : Nat} {i j : UInt8} {c d : Pktconn} {e f : RdcId}

theorem Kept.sound (h : R.Kept) : R.Sound := by
  refine ⟨fun s i e he => ⟨fun hused => ?_, fun hp => ?_⟩, fun p q c d s hp hq hc hd hcs hds hid => ?_, h.log⟩
  · rcases h.entries s i e he with ⟨hfree, -⟩ | ⟨-, -, hp⟩ | ⟨hwait, -⟩
    · rw [hfree] at hused
      cases hused
    · exact hp
    · rw [hwait] at hused
      cases hused
  · obtain ⟨p, c, hpe, -⟩ := hp
    rcases h.entries s i e he with ⟨-, hnone, -⟩ | ⟨hused, -⟩ | ⟨-, hnone, -⟩
    · rw [hnone] at hpe
      cases hpe
    · exact hused
    · rw [hnone] at hpe
      cases hpe
  · obtain ⟨e, he, -, hep⟩ := h.held p c s hp hc hcs
    obtain ⟨f, hf, -, hfq⟩ := h.held q d s hq hd hds
    rw [hid, hf] at he
    obtain rfl := Option.some.inj he
    exact Option.some.inj (hep.symm.trans hfq)

theorem kept_new (timeout now : Int) : (new timeout now).Kept := by
  refine ⟨?_, ?_, ?_, List.nodup_nil, fun _ => ⟨rfl, rfl⟩, ?_⟩
  · intro s i e he
    cases he
  · intro p c s hp
    cases hp
  · intro p hp
    cases hp
  · intro x hx
    cases hx

/-! ## Entries -/

theorem entry_setEntry : (R.setEntry s i e).entry t j =
    if t = s ∧ j = i then (R.entry s i).map fun _ => e else R.entry t j := by
  by_cases ht : t = s
  · subst ht
    by_cases hj : j = i
    · subst hj
      cases hs : R.sockcli_list[t]? <;> simp [entry, setEntry, hs]
    · cases hs : R.sockcli_list[t]? <;> simp [entry, setEntry, hs, hj]
  · simp [entry, setEntry, ht, Ne.symm ht]

/-- An entry that is used points to its packet connection. -/
theorem Kept.points (h : R.Kept) (he : R.entry s i = some e) (hp : e.pktconn = some p) :
    p ∈ R.db ∧ ∃ c, R.conn p = some c ∧ c.sockclient = some s ∧ c.id = i := by
  rcases h.entries s i e he with ⟨-, hnone, -⟩ | ⟨-, -, q, c, hq, hdb, hc, hs, hi⟩ | ⟨-, hnone, -⟩
  · rw [hnone] at hp
    cases hp
  · rw [hp] at hq
    obtain rfl := Option.some.inj hq
    exact ⟨hdb, c, hc, hs, hi⟩
  · rw [hnone] at hp
    cases hp

theorem filter_single {α β : Type} {f : α → Option β} {P : β → Bool} {a : α} {b : β} :
    ∀ l : List α, l.Nodup → a ∈ l → f a = some b → P b = true →
      (∀ x ∈ l, ∀ y, f x = some y → P y = true → x = a) → (l.filterMap f).filter P = [b] := by
  intro l
  induction l with
  | nil => intro _ ha; cases ha
  | cons x l ih =>
    intro hn ha hb hP hall
    have hn' := List.nodup_cons.mp hn
    by_cases hx : x = a
    · subst hx
      have hrest : (l.filterMap f).filter P = [] := by
        refine List.filter_eq_nil_iff.mpr fun y hy hPy => ?_
        obtain ⟨z, hz, hzy⟩ := List.mem_filterMap.mp hy
        obtain rfl := hall z (by simp [hz]) y hzy hPy
        exact hn'.1 hz
      simp [hb, hP, hrest]
    · have ha' : a ∈ l := by
        rcases List.mem_cons.mp ha with rfl | ha
        · exact absurd rfl hx
        · exact ha
      have hl := ih hn'.2 ha' hb hP fun y hy => hall y (by simp [hy])
      cases hfx : f x with
      | none => simpa [hfx] using hl
      | some y =>
        have hPy : P y = false := by
          cases hPy : P y with
          | false => rfl
          | true => exact absurd (hall x (by simp) y hfx hPy) hx
        simpa [hfx, hPy] using hl

/-- The packet connection that an entry points to is the only one that holds the id of the socket. -/
theorem Kept.owners (h : R.Kept) (he : R.entry s i = some e) (hp : e.pktconn = some p) (hc : R.conn p = some c) :
    R.owners s i = [c] := by
  obtain ⟨hdb, d, hd, hds, hdi⟩ := h.points he hp
  rw [hc] at hd
  obtain rfl := Option.some.inj hd
  refine filter_single R.db h.nodup hdb hc (by simp [hds, hdi]) fun q hq d hqd hP => ?_
  obtain ⟨hqs, hqi⟩ : d.sockclient = some s ∧ d.id = i := by simpa using hP
  obtain ⟨f, hf, -, hfq⟩ := h.held q d s hq hqd hqs
  rw [hqi, he] at hf
  obtain rfl := Option.some.inj hf
  exact Option.some.inj (hfq.symm.trans hp)

/-! ## The steps -/

theorem Kept.tick (h : R.Kept) : ({ R with now := R.now + 1 } : Rdc).Kept := by
  refine ⟨fun s i e he => ?_, h.held, h.live, h.nodup, h.idle, h.log⟩
  rcases h.entries s i e he with ⟨hs, hp, ht, hw⟩ | hused | hwait
  · refine .inl ⟨hs, hp, ht, fun t htw => ?_⟩
    have := hw t htw
    change t ≤ R.now + 1
    omega
  · exact .inr (.inl hused)
  · exact .inr (.inr hwait)

theorem entry_stopped (he : (R.clientStop).entry s i = some e) : e = {} := by
  simp only [entry, clientStop, List.getElem?_map, Option.map_eq_some_iff] at he
  obtain ⟨sock, ⟨old, -, rfl⟩, rfl⟩ := he
  rfl

theorem entryOk_free : R.EntryOk s i {} := .inl ⟨rfl, rfl, rfl, by simp⟩

/-- A proxy without packet connections whose entries are all free. -/
theorem kept_idle (hdb : R.db = []) (he : ∀ s i e, R.entry s i = some e → e = {})
    (hidle : R.status = false → R.serving = false) (hlog : ∀ x ∈ R.log, x.Right) : R.Kept := by
  refine ⟨fun s i e h => ?_, fun p c s hp => ?_, fun p hp => ?_, by rw [hdb]; exact List.nodup_nil,
    fun hs => ⟨hdb, hidle hs⟩, hlog⟩
  · rw [he s i e h]
    exact entryOk_free
  · rw [hdb] at hp
    cases hp
  · rw [hdb] at hp
    cases hp

/-- The sockets are opened. -/
theorem Kept.opened {status serving : Bool} (h : R.Kept) (hstatus : status = false → R.db = [] ∧ serving = false) :
    ({ R with
      sockcli_list := R.sockcli_list.map fun c => { c with opened := true }
      status := status, serving := serving } : Rdc).Kept := by
  have hentry (s : Nat) (i : UInt8) : ({ R with
      sockcli_list := R.sockcli_list.map fun c => { c with opened := true }
      status := status, serving := serving } : Rdc).entry s i = R.entry s i := by
    cases hs : R.sockcli_list[s]? <;> simp [entry, hs]
  refine ⟨fun s i e he => ?_, fun p c s hp hc hs => ?_, h.live, h.nodup, hstatus, h.log⟩
  · rw [hentry] at he
    exact h.entries s i e he
  · rw [hentry]
    exact h.held p c s hp hc hs

/-- The proxy is stopped and its packet connections are freed. -/
theorem Kept.cleared {status : Bool} (h : R.Kept) :
    ({ R.clientStop.pktconnDbClear with status := status, serving := false } : Rdc).Kept :=
  kept_idle rfl (fun _ _ _ he => entry_stopped (R := R) he) (fun _ => rfl) h.log

theorem Kept.clientStop (h : R.Kept) (hdb : R.db = []) (hs : R.status = false → R.serving = false) :
    R.clientStop.Kept :=
  kept_idle hdb (fun _ _ _ he => entry_stopped he) hs h.log

/-- The server and the sockets are opened, or nothing is. -/
theorem Kept.serve {server coa : Bool} {sockets : List Bool} (h : R.Kept) (hdb : R.db = [])
    (hserving : R.serving = false) :
    ((R.serve server sockets coa).2 = false → (R.serve server sockets coa).1.Kept) ∧
      (R.serve server sockets coa).1.status = R.status ∧
      ({ (R.serve server sockets coa).1 with status := true } : Rdc).Kept := by
  have hstop := h.clientStop hdb fun _ => hserving
  have htrue (R : Rdc) (h : R.Kept) : ({ R with status := true } : Rdc).Kept :=
    ⟨h.entries, h.held, h.live, h.nodup, by simp, h.log⟩
  cases server with
  | false => exact ⟨fun _ => h, rfl, htrue R h⟩
  | true =>
    cases hall : (R.sockcli_list.zip sockets).all fun x => x.1.opened || x.2 with
    | false =>
      simp only [Rdc.serve, clientStart, hall, if_true, Bool.false_eq_true, if_false]
      exact ⟨fun _ => hstop, rfl, htrue _ hstop⟩
    | true =>
      have hopened := @Rdc.Kept.opened _ true true h (by simp)
      cases coa with
      | true =>
        simp only [Rdc.serve, clientStart, hall, if_true]
        exact ⟨fun hno => (by cases hno), trivial, hopened⟩
      | false =>
        have hagain := (@Rdc.Kept.opened _ R.status R.serving h fun _ => ⟨hdb, hserving⟩).clientStop
          hdb fun _ => hserving
        simp only [Rdc.serve, clientStart, hall, if_true, Bool.false_eq_true, if_false]
        exact ⟨fun _ => hagain, rfl, htrue _ hagain⟩

theorem Kept.insStart {master server coa : Bool} {sockets : List Bool} (h : R.Kept) :
    (R.insStart master server sockets coa).Kept := by
  rw [Rdc.insStart]
  cases hs : R.status with
  | true => exact h
  | false =>
    obtain ⟨hdb, hserving⟩ := h.idle hs
    obtain ⟨hfail, -, hgood⟩ := @Rdc.Kept.serve _ server coa sockets h hdb hserving
    cases master with
    | false => exact ⟨h.entries, h.held, h.live, h.nodup, by simp, h.log⟩
    | true =>
      simp only [Bool.false_eq_true, if_false, if_true]
      split
      · exact hgood
      · rename_i hok
        exact hfail (by simpa using hok)

theorem Kept.insStop (h : R.Kept) : R.insStop.Kept := by
  rw [Rdc.insStop]
  split
  · exact h.cleared
  · exact h

theorem Kept.switch {master server coa : Bool} {sockets : List Bool} (h : R.Kept) :
    (R.vrrpStatusSwitchProc master server sockets coa).Kept := by
  rw [vrrpStatusSwitchProc]
  cases hs : R.status with
  | false => exact h
  | true =>
    have hclear : ({ R.clientStop.pktconnDbClear with serving := false } : Rdc).Kept := by
      have := @Rdc.Kept.cleared _ R.status h
      exact this
    obtain ⟨-, hstatus, hgood⟩ := @Rdc.Kept.serve _ server coa sockets hclear rfl rfl
    cases master with
    | false => exact hclear
    | true =>
      simp only [if_true]
      have hsame : ∀ R : Rdc, R.status = true → ({ R with status := true } : Rdc) = R := by
        rintro ⟨status, serving, timeout, l, conn, db, now, log⟩ rfl
        rfl
      rw [hsame _ (hstatus.trans hs)] at hgood
      exact hgood

/-- A packet connection changes without changing hands. -/
theorem Kept.reconn (h : R.Kept) (hp : p ∈ R.db) (hc : R.conn p = some c) (hs : d.sockclient = c.sockclient)
    (hi : d.id = c.id) : ({ R with conn := Function.update R.conn p (some d) } : Rdc).Kept := by
  have hpoints : ∀ s i e, R.Points s i e →
      ({ R with conn := Function.update R.conn p (some d) } : Rdc).Points s i e := by
    rintro s i e ⟨q, c', hq, hdb, hc', hcs, hci⟩
    by_cases hqp : q = p
    · subst hqp
      rw [hc] at hc'
      obtain rfl := Option.some.inj hc'
      exact ⟨q, d, hq, hdb, by simp, hs.trans hcs, hi.trans hci⟩
    · exact ⟨q, c', hq, hdb, by simpa [hqp] using hc', hcs, hci⟩
  refine ⟨fun s i e he => ?_, fun q c' s hq hc' hcs => ?_, fun q hq => ?_, h.nodup, h.idle, h.log⟩
  · exact (h.entries s i e he).imp_right (Or.imp_left fun hu => ⟨hu.1, hu.2.1, hpoints s i e hu.2.2⟩)
  · by_cases hqp : q = p
    · subst hqp
      obtain rfl : d = c' := by simpa using hc'
      rw [hi]
      exact h.held q c s hq hc (hs.symm.trans hcs)
    · exact h.held q c' s hq (by simpa [hqp] using hc') hcs
  · by_cases hqp : q = p
    · subst hqp
      exact ⟨d, by simp⟩
    · obtain ⟨c', hc'⟩ := h.live q hq
      exact ⟨c', by simpa [hqp] using hc'⟩

/-- A new packet connection holds nothing yet. -/
theorem Kept.pktconnNew {client : Endpoint} (h : R.Kept) (hp : R.conn p = none) (hs : R.status = true) :
    (R.pktconnNew p client i).Kept := by
  have hnew : p ∉ R.db := by
    intro hdb
    obtain ⟨c, hc⟩ := h.live p hdb
    rw [hp] at hc
    cases hc
  have hne : ∀ q, q ∈ R.db → q ≠ p := by
    rintro q hq rfl
    exact hnew hq
  have hold : ∀ q c', q ∈ R.db → ((R.pktconnNew p client i).conn q = some c' ↔ R.conn q = some c') := by
    intro q c' hq
    simp [Rdc.pktconnNew, hne q hq]
  refine ⟨fun s i' e he => ?_, fun q c' s hq hc' hcs => ?_, fun q hq => ?_, List.nodup_cons.mpr ⟨hnew, h.nodup⟩,
    fun hst => ?_, h.log⟩
  · refine (h.entries s i' e he).imp_right (Or.imp_left fun hu => ⟨hu.1, hu.2.1, ?_⟩)
    obtain ⟨q, c', hq, hdb, hc', hcs, hci⟩ := hu.2.2
    exact ⟨q, c', hq, List.mem_cons_of_mem _ hdb, (hold q c' hdb).mpr hc', hcs, hci⟩
  · rcases List.mem_cons.mp hq with rfl | hq
    · have hself : (⟨none, client, i, some (R.now + R.timeout), R.timeout, []⟩ : Pktconn) = c' := by
        simpa [Rdc.pktconnNew] using hc'
      rw [← hself] at hcs
      cases hcs
    · exact h.held q c' s hq ((hold q c' hq).mp hc') hcs
  · rcases List.mem_cons.mp hq with rfl | hq
    · exact ⟨_, by simp [Rdc.pktconnNew]; rfl⟩
    · obtain ⟨c', hc'⟩ := h.live q hq
      exact ⟨c', (hold q c' hq).mpr hc'⟩
  · have : R.status = false := hst
    rw [hs] at this
    cases this

/-- A free entry is taken for a packet connection that has none. -/
theorem Kept.take (h : R.Kept) (hp : p ∈ R.db) (hc : R.conn p = some c) (hnone : c.sockclient = none)
    (he : R.entry s c.id = some e) (hfree : e.status = .RDC_ID_FREE) : (R.take s c.id p c e).Kept := by
  have hentry (t : Nat) (j : UInt8) : (R.take s c.id p c e).entry t j =
      if t = s ∧ j = c.id then
        some { e with status := .RDC_ID_USED, pktconn := some p, timeout := c.timeout }
      else R.entry t j := by
    have := entry_setEntry (R := R) (s := s) (i := c.id) (t := t) (j := j)
      (e := { e with status := .RDC_ID_USED, pktconn := some p, timeout := c.timeout })
    rw [he] at this
    exact this
  have hok := h.entries s c.id e he
  have hparts : e.t_timeout = none ∧ ∀ t, e.waited = some t → t ≤ R.now := by
    rcases hok with ⟨-, -, ht, hw⟩ | ⟨hu, -⟩ | ⟨hw, -⟩
    · exact ⟨ht, hw⟩
    · rw [hfree] at hu
      cases hu
    · rw [hfree] at hw
      cases hw
  have hconn (q : Nat) (hq : q ≠ p) : (R.take s c.id p c e).conn q = R.conn q := by
    simp [Rdc.take, hq]
  have hself : (R.take s c.id p c e).conn p = some { c with sockclient := some s } := by simp [Rdc.take]
  refine ⟨fun t j f hf => ?_, fun q c' t hq hc' hct => ?_, fun q hq => ?_, h.nodup, h.idle, ?_⟩
  · rw [hentry] at hf
    split at hf
    · rename_i htj
      obtain ⟨rfl, rfl⟩ := htj
      obtain rfl := Option.some.inj hf
      exact .inr (.inl ⟨rfl, hparts.1, p, _, rfl, hp, hself, rfl, rfl⟩)
    · refine (h.entries t j f hf).imp_right (Or.imp_left fun hu => ⟨hu.1, hu.2.1, ?_⟩)
      obtain ⟨q, c', hq, hdb, hc', hcs, hci⟩ := hu.2.2
      have hqp : q ≠ p := by
        rintro rfl
        rw [hc] at hc'
        obtain rfl := Option.some.inj hc'
        rw [hnone] at hcs
        cases hcs
      exact ⟨q, c', hq, hdb, (hconn q hqp).trans hc', hcs, hci⟩
  · by_cases hqp : q = p
    · subst hqp
      rw [hself] at hc'
      obtain rfl := Option.some.inj hc'
      obtain rfl := Option.some.inj hct
      exact ⟨_, by rw [hentry, if_pos ⟨rfl, rfl⟩], rfl, rfl⟩
    · rw [hconn q hqp] at hc'
      obtain ⟨f, hf, hfu, hfq⟩ := h.held q c' t hq hc' hct
      refine ⟨f, ?_, hfu, hfq⟩
      rw [hentry, if_neg, hf]
      rintro ⟨rfl, hid⟩
      rw [hid, he] at hf
      obtain rfl := Option.some.inj hf
      rw [hfree] at hfu
      cases hfu
  · by_cases hqp : q = p
    · subst hqp
      exact ⟨_, hself⟩
    · rw [hconn q hqp]
      exact h.live q hq
  · intro x hx
    rcases List.mem_cons.mp hx with rfl | hx
    · exact hparts.2
    · exact h.log x hx

theorem freeSocket_some (hs : R.freeSocket i = some s) :
    ∃ e, R.entry s i = some e ∧ e.status = .RDC_ID_FREE := by
  obtain ⟨hlt, hfree, -⟩ := List.findIdx?_eq_some_iff_getElem.mp hs
  exact ⟨_, by rw [entry, List.getElem?_eq_getElem hlt, Option.map_some], by simpa using hfree⟩

theorem entry_append {sock : Sockclient} : ({ R with sockcli_list := R.sockcli_list ++ [sock] } : Rdc).entry s i =
    if s = R.sockcli_list.length then some (sock.id i) else R.entry s i := by
  by_cases hs : s = R.sockcli_list.length
  · subst hs
    simp [entry]
  · by_cases hlt : s < R.sockcli_list.length
    · simp [entry, hs, List.getElem?_append_left hlt]
    · have hge : R.sockcli_list.length + 1 ≤ s := by omega
      have h1 : (R.sockcli_list ++ [sock])[s]? = none := List.getElem?_eq_none (by simpa using hge)
      have h2 : R.sockcli_list[s]? = none := List.getElem?_eq_none (by omega)
      simp [entry, hs, h1, h2]

/-- There is one more socket, all of whose entries are free. -/
theorem Kept.sockclientNew {socket : Bool} (h : R.Kept) :
    ({ R with sockcli_list := R.sockcli_list ++ [({ opened := socket } : Sockclient)] } : Rdc).Kept := by
  refine ⟨fun s i e he => ?_, fun p c s hp hc hs => ?_, h.live, h.nodup, h.idle, h.log⟩
  · rw [entry_append] at he
    split at he
    · obtain rfl := Option.some.inj he
      exact entryOk_free
    · exact h.entries s i e he
  · obtain ⟨e, he, hu⟩ := h.held p c s hp hc hs
    refine ⟨e, ?_, hu⟩
    have hlt : s < R.sockcli_list.length := by
      by_contra hge
      simp [entry, List.getElem?_eq_none (Nat.not_lt.mp hge)] at he
    rw [entry_append, if_neg (by omega), he]

theorem Kept.clientSendRequest {mem socket : Bool} (h : R.Kept) (hp : p ∈ R.db) (hc : R.conn p = some c) :
    (R.clientSendRequest p c mem socket).Kept := by
  rw [Rdc.clientSendRequest]
  cases hs : c.sockclient with
  | some s => exact h
  | none =>
    cases hfree : R.freeSocket c.id with
    | some s =>
      obtain ⟨e, he, hef⟩ := freeSocket_some hfree
      simp only [he, Option.getD_some]
      exact h.take hp hc hs he hef
    | none =>
      dsimp only
      split
      · exact h.sockclientNew.take hp hc hs (by rw [entry_append, if_pos rfl]) rfl
      · exact h

theorem Kept.serverProcessRequest {client server : Endpoint} {malloc : Option Nat} {mem socket : Bool} (h : R.Kept)
    (hs : R.serving = true) :
    ∃ R', R.serverProcessRequest client i server malloc mem socket = some R' ∧ R'.Kept := by
  have hstatus : R.status = true := by
    cases hst : R.status with
    | true => rfl
    | false =>
      have := (h.idle hst).2
      rw [hs] at this
      cases this
  have hlive : (R.db.all fun p => (R.conn p).isSome) = true := by
    refine List.all_eq_true.mpr fun p hp => ?_
    obtain ⟨c, hc⟩ := h.live p hp
    simp [hc]
  -- what is done once there is a packet connection
  have hsend : ∀ R : Rdc, R.Kept → ∀ p ∈ R.db, ∃ c R', R.conn p = some c ∧
      ({ R with conn := Function.update R.conn p (some { c with named := server :: c.named }) } : Rdc).clientSendRequest
        p { c with named := server :: c.named } mem socket = R' ∧ R'.Kept := by
    intro R h p hp
    obtain ⟨c, hc⟩ := h.live p hp
    have hnamed := h.reconn (d := { c with named := server :: c.named }) hp hc rfl rfl
    exact ⟨c, _, hc, rfl, hnamed.clientSendRequest hp (by simp)⟩
  simp only [Rdc.serverProcessRequest, pktconnDbLookup, hlive, if_true, Option.bind_eq_bind, Option.bind_some]
  cases hfind : R.db.find? fun p => (R.conn p).any fun c => c.client = client ∧ c.id = i with
  | some p =>
    obtain ⟨c, R', hc, hR', hk⟩ := hsend R h p (List.mem_of_find?_eq_some hfind)
    exact ⟨R', by simp [hc, hR'], hk⟩
  | none =>
    cases malloc with
    | none => exact ⟨R, rfl, h⟩
    | some p =>
      cases hp : R.conn p with
      | some c => exact ⟨R, by simp [hp], h⟩
      | none =>
        have hnew : (R.pktconnNew p client i).Kept := h.pktconnNew hp hstatus
        obtain ⟨c, R', hc, hR', hk⟩ := hsend _ hnew p List.mem_cons_self
        exact ⟨R', by simp [hp, hc, hR'], hk⟩

theorem Kept.idStatusTimeout (h : R.Kept) : (R.idStatusTimeout s i).Kept := by
  rw [Rdc.idStatusTimeout]
  cases he : R.entry s i with
  | none => exact h
  | some e =>
    dsimp only
    split
    · rename_i hdue
      obtain ⟨due, hdue, hle⟩ : ∃ due, e.t_timeout = some due ∧ due ≤ R.now := by
        cases ht : e.t_timeout with
        | none => simp [ht] at hdue
        | some due => exact ⟨due, rfl, by simpa [ht] using hdue⟩
      -- only an entry that waits has a timer
      have hwait : e.pktconn = none ∧ e.waited = some due := by
        rcases h.entries s i e he with ⟨-, -, ht, -⟩ | ⟨-, ht, -⟩ | ⟨-, hp, ht⟩
        · rw [ht] at hdue
          cases hdue
        · rw [ht] at hdue
          cases hdue
        · exact ⟨hp, ht ▸ hdue⟩
      have hentry (t : Nat) (j : UInt8) := entry_setEntry (R := R) (s := s) (i := i) (t := t) (j := j)
        (e := { e with status := .RDC_ID_FREE, pktconn := none, t_timeout := none, timeout := 0 })
      refine ⟨fun t j f hf => ?_, fun q c' t hq hc' hct => ?_, h.live, h.nodup, h.idle, h.log⟩
      · rw [hentry, he] at hf
        split at hf
        · obtain rfl := Option.some.inj hf
          refine .inl ⟨rfl, rfl, rfl, fun t ht => ?_⟩
          have ht' : e.waited = some t := ht
          rw [hwait.2] at ht'
          obtain rfl := Option.some.inj ht'
          exact hle
        · exact h.entries t j f hf
      · obtain ⟨f, hf, hfu, hfq⟩ := h.held q c' t hq hc' hct
        refine ⟨f, ?_, hfu, hfq⟩
        rw [hentry, if_neg, hf]
        rintro ⟨rfl, hid⟩
        rw [hid, he] at hf
        obtain rfl := Option.some.inj hf
        rw [hwait.1] at hfq
        cases hfq
    · exact h

theorem sockclientIdWait_frame : (R.sockclientIdWait s i).db = R.db ∧ (R.sockclientIdWait s i).conn = R.conn ∧
    (R.sockclientIdWait s i).now = R.now ∧ (R.sockclientIdWait s i).log = R.log ∧
    (R.sockclientIdWait s i).status = R.status ∧ (R.sockclientIdWait s i).serving = R.serving := by
  cases he : R.entry s i <;> simp [sockclientIdWait, he, setEntry]

/-- What becomes of an entry when the time of a packet connection is over: it stays as it is, or it was the
one of the packet connection and waits now. -/
theorem Kept.entry_pktconnTimeout (h : R.Kept) (hp : p ∈ R.db) (hc : R.conn p = some c) (t : Nat) (j : UInt8) :
    ((R.pktconnTimeout p c).entry t j = R.entry t j ∧ ∀ f, R.entry t j = some f → f.pktconn ≠ some p) ∨
    ((∃ e, R.entry t j = some e ∧ e.pktconn = some p) ∧ ∃ f, (R.pktconnTimeout p c).entry t j = some f ∧
      f.status = .RDC_ID_WAIT ∧ f.pktconn = none ∧ f.t_timeout = f.waited) := by
  have hother : c.sockclient ≠ some t ∨ j ≠ c.id → ∀ f, R.entry t j = some f → f.pktconn ≠ some p := by
    rintro hne f hf hfp
    obtain ⟨-, c', hc', hcs', hci'⟩ := h.points hf hfp
    rw [hc] at hc'
    obtain rfl := Option.some.inj hc'
    rcases hne with hne | hne
    · exact hne hcs'
    · exact hne hci'.symm
  cases hcs : c.sockclient with
  | none =>
    refine .inl ⟨?_, hother (.inl (by simp [hcs]))⟩
    simp [Rdc.pktconnTimeout, hcs, entry]
  | some s =>
    obtain ⟨e, he, -, hep⟩ := h.held p c s hp hc hcs
    obtain ⟨f, hf⟩ : ∃ f : RdcId, f = { e with
        status := .RDC_ID_WAIT, pktconn := none, t_timeout := some (R.now + e.timeout)
        waited := some (R.now + e.timeout) } := ⟨_, rfl⟩
    have hset : (R.pktconnTimeout p c).entry t j = (R.setEntry s c.id f).entry t j := by
      simp only [Rdc.pktconnTimeout, hcs, sockclientIdWait, he, ← hf]
      rfl
    rw [hset, entry_setEntry, he]
    by_cases htj : t = s ∧ j = c.id
    · obtain ⟨rfl, rfl⟩ := htj
      exact .inr ⟨⟨e, he, hep⟩, f, by simp, by rw [hf], by rw [hf], by rw [hf]⟩
    · refine .inl ⟨by rw [if_neg htj], hother ?_⟩
      by_cases ht : t = s
      · exact .inr fun hj => htj ⟨ht, hj⟩
      · refine .inl ?_
        rw [hcs]
        exact fun hst => ht (Option.some.inj hst).symm

/-- The time of a packet connection is over. -/
theorem Kept.pktconnTimeout (h : R.Kept) (hp : p ∈ R.db) (hc : R.conn p = some c) : (R.pktconnTimeout p c).Kept := by
  have hframe : (R.pktconnTimeout p c).db = R.db.erase p ∧
      (R.pktconnTimeout p c).conn = Function.update R.conn p none ∧ (R.pktconnTimeout p c).now = R.now ∧
      (R.pktconnTimeout p c).log = R.log ∧ (R.pktconnTimeout p c).status = R.status ∧
      (R.pktconnTimeout p c).serving = R.serving := by
    cases hcs : c.sockclient with
    | none => simp [Rdc.pktconnTimeout, hcs]
    | some s =>
      obtain ⟨h1, h2, h3, h4, h5, h6⟩ := sockclientIdWait_frame (R := R) (s := s) (i := c.id)
      simp [Rdc.pktconnTimeout, hcs, h1, h2, h3, h4, h5, h6]
  obtain ⟨hdb, hconn, hnow, hlog, hstatus, hserving⟩ := hframe
  have hmem (q : Nat) : q ∈ (R.pktconnTimeout p c).db ↔ q ≠ p ∧ q ∈ R.db := by
    rw [hdb]
    exact h.nodup.mem_erase_iff
  refine ⟨fun t j f hf => ?_, fun q c' t hq hc' hct => ?_, fun q hq => ?_, ?_, fun hs => ?_, ?_⟩
  · rcases h.entry_pktconnTimeout hp hc t j with ⟨hsame, hnot⟩ | ⟨-, f', hf', hwait⟩
    · rw [hsame] at hf
      rcases h.entries t j f hf with hfree | ⟨hu, ht, q, c', hq, hqdb, hc', hcs', hci'⟩ | hwait
      · exact .inl (by rw [hnow]; exact hfree)
      · have hqp : q ≠ p := by
          rintro rfl
          exact hnot f hf hq
        exact .inr (.inl ⟨hu, ht, q, c', hq, (hmem q).mpr ⟨hqp, hqdb⟩, by simpa [hconn, hqp] using hc', hcs', hci'⟩)
      · exact .inr (.inr hwait)
    · rw [hf] at hf'
      obtain rfl := Option.some.inj hf'
      exact .inr (.inr hwait)
  · obtain ⟨hqp, hqdb⟩ := (hmem q).mp hq
    have hc'' : R.conn q = some c' := by simpa [hconn, hqp] using hc'
    obtain ⟨f, hf, hfu, hfq⟩ := h.held q c' t hqdb hc'' hct
    refine ⟨f, ?_, hfu, hfq⟩
    rcases h.entry_pktconnTimeout hp hc t c'.id with ⟨hsame, -⟩ | ⟨⟨e, he, hep⟩, -⟩
    · rw [hsame, hf]
    · rw [hf] at he
      obtain rfl := Option.some.inj he
      exact absurd (Option.some.inj (hfq.symm.trans hep)) hqp
  · obtain ⟨hqp, hqdb⟩ := (hmem q).mp hq
    obtain ⟨c', hc'⟩ := h.live q hqdb
    exact ⟨c', by simpa [hconn, hqp] using hc'⟩
  · rw [hdb]
    exact h.nodup.erase p
  · rw [hstatus] at hs
    rw [hdb, hserving, (h.idle hs).1]
    exact ⟨rfl, (h.idle hs).2⟩
  · rw [hlog]
    exact h.log

theorem Kept.connTimer (h : R.Kept) : (R.connTimer p).Kept := by
  rw [Rdc.connTimer]
  cases hc : R.conn p with
  | none => exact h
  | some c =>
    dsimp only
    split
    · rename_i hdue
      exact h.pktconnTimeout hdue.1 hc
    · exact h

end

end Rdc

namespace RdcOp

/-- The condition on a step: a response for an id that is in use comes from a server that the packet
connection named. -/
def Ok (R : Rdc) : RdcOp → Prop
  | response s server i => ∀ sock p c, R.sockcli_list[s]? = some sock → sock.opened = true →
    (sock.id i).pktconn = some p → R.conn p = some c → server ∈ c.named
  | _ => True

/-- A response for an id that is in use is forwarded to the client that holds it, wherever it comes from. -/
theorem response_cases {R : Rdc} (h : R.Kept) (s : Nat) (server : Endpoint) (i : UInt8) :
    ((response s server i).Ok R ∧ step R (response s server i) = some R) ∨
    ∃ c, ((response s server i).Ok R ↔ server ∈ c.named) ∧
      step R (response s server i) = some { R with log := .forwarded c.client server [c] :: R.log } := by
  cases hs : R.sockcli_list[s]? with
  | none => exact .inl ⟨by simp [Ok, hs], by simp [step, Rdc.sockclientProcessResponse, hs]⟩
  | some sock =>
    have hsock : ∀ sock', R.sockcli_list[s]? = some sock' → sock' = sock := by
      intro sock' hs'
      rw [hs] at hs'
      exact (Option.some.inj hs').symm
    cases ho : sock.opened with
    | false =>
      refine .inl ⟨fun sock' p c hs' ho' => ?_, by simp [step, Rdc.sockclientProcessResponse, hs, ho]⟩
      rw [hsock sock' hs', ho] at ho'
      cases ho'
    | true =>
      cases hp : (sock.id i).pktconn with
      | none =>
        refine .inl ⟨fun sock' p c hs' _ hp' => ?_, by simp [step, Rdc.sockclientProcessResponse, hs, ho, hp]⟩
        rw [hsock sock' hs', hp] at hp'
        cases hp'
      | some p =>
        have he : R.entry s i = some (sock.id i) := by simp [Rdc.entry, hs]
        obtain ⟨-, c, hc, -⟩ := h.points he hp
        refine .inr ⟨c, ⟨fun hok => hok sock p c hs ho hp hc, fun hnamed sock' p' c' hs' _ hp' hc' => ?_⟩, ?_⟩
        · rw [hsock sock' hs', hp] at hp'
          obtain rfl := Option.some.inj hp'
          rw [hc] at hc'
          obtain rfl := Option.some.inj hc'
          exact hnamed
        · simp [step, Rdc.sockclientProcessResponse, hs, ho, hp, hc, h.owners he hp hc]

theorem step_kept (R : Rdc) (op : RdcOp) (h : R.Kept) (hok : op.Ok R) : ∃ R', step R op = some R' ∧ R'.Kept := by
  cases op with
  | request client i server malloc mem socket =>
    cases hs : R.serving with
    | false => exact ⟨R, by simp [step, hs], h⟩
    | true =>
      obtain ⟨R', hR', hk⟩ := @Rdc.Kept.serverProcessRequest _ i client server malloc mem socket h hs
      exact ⟨R', by simp [step, hs, hR'], hk⟩
  | response s server i =>
    rcases response_cases h s server i with ⟨-, hstep⟩ | ⟨c, hiff, hstep⟩
    · exact ⟨R, hstep, h⟩
    · refine ⟨_, hstep, h.entries, h.held, h.live, h.nodup, h.idle, fun x hx => ?_⟩
      rcases List.mem_cons.mp hx with rfl | hx
      · exact ⟨c, rfl, rfl, hiff.mp hok⟩
      · exact h.log x hx
  | connTimer p => exact ⟨_, rfl, h.connTimer⟩
  | idTimer s i => exact ⟨_, rfl, h.idStatusTimeout⟩
  | setTimeout timeout => exact ⟨_, rfl, h.entries, h.held, h.live, h.nodup, h.idle, h.log⟩
  | start master server sockets coa => exact ⟨_, rfl, h.insStart⟩
  | stop => exact ⟨_, rfl, h.insStop⟩
  | switch master server sockets coa => exact ⟨_, rfl, h.switch⟩
  | tick => exact ⟨_, rfl, h.tick⟩

/-- Once a response from elsewhere was forwarded the proxy is not what it is to be. -/
theorem step_unsound (R : Rdc) (op : RdcOp) (R' : Rdc) (h : R.Kept) (hbad : ¬ op.Ok R)
    (hstep : step R op = some R') : ¬ R'.Sound := by
  intro hsound
  cases op with
  | response s server i =>
    rcases response_cases h s server i with ⟨hok, -⟩ | ⟨c, hiff, hforward⟩
    · exact hbad hok
    · rw [hforward] at hstep
      obtain rfl := Option.some.inj hstep
      obtain ⟨d, hd, -, hnamed⟩ := hsound.log _ List.mem_cons_self
      obtain rfl : c = d := by simpa using hd
      exact hbad (hiff.mpr hnamed)
  | _ => exact hbad trivial

/-- In a run everything is as it is to be all along, exactly if all responses for ids in use come from servers
that the clients named. -/
theorem demux_iff (timeout now : Int) (ops : List RdcOp) :
    (∀ pre suf, ops = pre ++ suf → ∃ R, tryRun step (Rdc.new timeout now) pre = some R ∧ R.Sound) ↔
      TryObeys step (fun R op => op.Ok R) (Rdc.new timeout now) ops :=
  (tryObeys_iff step_kept (fun _ h => h.sound) step_unsound (Rdc.kept_new timeout now)).symm

/-- A client names the server 10, and gets what 11 sends. -/
theorem demux_stray : ¬ ∀ pre suf,
    [start true true [] true, request (1, 3000) 7 (10, 1812) (some 1) true true, response 0 (11, 1812) 7] =
      pre ++ suf → ∃ R, tryRun step (Rdc.new 30 0) pre = some R ∧ R.Sound := by
  intro hall
  obtain ⟨R, hR, hsound⟩ := hall _ [] (List.append_nil _).symm
  have hrun : (tryRun step (Rdc.new 30 0)
      [start true true [] true, request (1, 3000) 7 (10, 1812) (some 1) true true, response 0 (11, 1812) 7]).map
        Rdc.log = some [.forwarded (1, 3000) (11, 1812) [⟨some 0, (1, 3000), 7, some 30, 30, [(10, 1812)]⟩],
          .taken none 0] := by decide
  rw [hR] at hrun
  have hlog : R.log = _ := Option.some.inj hrun
  obtain ⟨c, hc, -, hnamed⟩ := hsound.log _ (by rw [hlog]; exact List.mem_cons_self)
  obtain rfl := List.head_eq_of_cons_eq hc
  exact absurd hnamed (by decide)

end RdcOp

end Eag
end DaemonGroup
