import DaemonGroup.Lib.Run
import Mathlib.Algebra.Order.Ring.Nat
import Mathlib.Tactic.Common

/-!
# DaemonGroup.Eag.Flux

The traffic counters of a session (`set_appconn_flux`): readings of a station's counters from the
wireless controller, and readings of the packet filter's counters.

* `wireless_iff` — the readings of a station that are billed with what was sent.
* `tables_iff` — the readings of the packet filter that are billed as they were read.
-/

namespace DaemonGroup
namespace Eag
namespace Flux

open Lib

/-! ## Counters -/

/-- The four counters of a session or of a reading. -/
inductive Counter where
  | input_octets
  | input_packets
  | output_octets
  | output_packets
deriving DecidableEq, Repr

namespace Counter

def all : List Counter := [input_octets, input_packets, output_octets, output_packets]

theorem mem_all (c : Counter) : c ∈ all := by cases c <;> decide

/-- `uint64_t` for octets and `uint32_t` for packets. -/
def width : Counter → Nat
  | input_octets => 64
  | input_packets => 32
  | output_octets => 64
  | output_packets => 32

end Counter

abbrev Counters := (c : Counter) → BitVec c.width

def zeroCounters : Counters := fun _ => 0

/-- `struct wireless_data_t` -/
structure WirelessData where
  init : Counters
  fixed : Counters
  last : Counters
  cur : Counters

/-- `FLUX_FROM_TYPE` -/
inductive FluxFrom where
  | FLUX_FROM_IPTABLES
  | FLUX_FROM_IPTABLES_L2
  | FLUX_FROM_WIRELESS
  | FLUX_FROM_FASTFWD
  | FLUX_FROM_FASTFWD_IPTABLES
deriving DecidableEq, Repr

/-- The correction factors of `appconn_db_t`, in thousandths. -/
structure Factors where
  input_correct_factor : BitVec 32
  output_correct_factor : BitVec 32
deriving DecidableEq

/-- The counters of a connection. What is for IPv6 has its own ones. -/
structure AppConn where
  session : Counters
  session_ipv6 : Counters
  wireless_data : WirelessData
  bk : Counters
  bk_ipv6 : Counters
  iptables_data : Counters
  ip6tables_data : Counters
  fastfwd_data : Counters
  fastfwd_data_ipv6 : Counters

/-! ## The counters of the packet filter -/

/-- Octets times a factor, in `uint64_t`. -/
def timesFactor (octets : BitVec 64) (factor : BitVec 32) : BitVec 64 :=
  octets * factor.setWidth 64 / 1000

/-- A counter with its correction; packets have none. -/
def correct (f : Factors) : (c : Counter) → BitVec c.width → BitVec c.width
  | .input_octets, v => timesFactor v f.input_correct_factor
  | .output_octets, v => timesFactor v f.output_correct_factor
  | .input_packets, v => v
  | .output_packets, v => v

/-- Octets with the layer 2 headers of the packets, which are multiplied in `uint32_t`. -/
def withHeaders (octets : BitVec 64) (packets : BitVec 32) : BitVec 64 :=
  octets + (packets * 18).setWidth 64

def layer2 (d : Counters) : Counters
  | .input_octets => withHeaders (d .input_octets) (d .input_packets)
  | .output_octets => withHeaders (d .output_octets) (d .output_packets)
  | .input_packets => d .input_packets
  | .output_packets => d .output_packets

/-- The session gets what the packet filter has counted. -/
def AppConn.fromTables (f : Factors) (a : AppConn) : AppConn :=
  { a with
    session := fun c => a.bk c + correct f c (a.iptables_data c)
    session_ipv6 := fun c => a.bk_ipv6 c + correct f c (a.ip6tables_data c) }

/-! ## The counters of a station -/

/-- One of the counters has been reduced, and not to zero. -/
def WirelessData.reduced (w : WirelessData) : Bool :=
  Counter.all.any fun c => w.cur c ≠ 0 ∧ w.cur c < w.last c

/-- The session gets what the station has counted. -/
def AppConn.fromWireless (a : AppConn) : AppConn :=
  let w := a.wireless_data
  let w := if w.reduced then { w with fixed := fun c => w.fixed c + w.last c } else w
  { a with
    session := fun c =>
      if w.fixed c + w.cur c > w.init c then w.fixed c + w.cur c - w.init c else a.session c
    wireless_data := { w with last := w.cur } }

/-- `set_appconn_flux` -/
def setAppconnFlux (flux_from : FluxFrom) (f : Factors) (a : AppConn) : AppConn :=
  match flux_from with
  | .FLUX_FROM_IPTABLES => a.fromTables f
  | .FLUX_FROM_IPTABLES_L2 =>
    { a with
      iptables_data := layer2 a.iptables_data
      ip6tables_data := layer2 a.ip6tables_data }.fromTables f
  | .FLUX_FROM_WIRELESS => a.fromWireless
  | .FLUX_FROM_FASTFWD =>
    { a with
      session := fun c => a.bk c + a.fastfwd_data c
      session_ipv6 := fun c => a.bk_ipv6 c + a.fastfwd_data_ipv6 c }
  | .FLUX_FROM_FASTFWD_IPTABLES =>
    { a with
      session := fun c => a.bk c + a.iptables_data c + a.fastfwd_data c
      session_ipv6 := fun c => a.bk_ipv6 c + a.ip6tables_data c + a.fastfwd_data_ipv6 c }

/-- `appconn_new` -/
def appconnNew : AppConn where
  session := zeroCounters
  session_ipv6 := zeroCounters
  wireless_data := ⟨zeroCounters, zeroCounters, zeroCounters, zeroCounters⟩
  bk := zeroCounters
  bk_ipv6 := zeroCounters
  iptables_data := zeroCounters
  ip6tables_data := zeroCounters
  fastfwd_data := zeroCounters
  fastfwd_data_ipv6 := zeroCounters

/-- `appconn_init_flux_from_wireless`; `sta` is the reading of the station, if it is found. -/
def appconnInitFluxFromWireless (sta : Option Counters) (a : AppConn) : AppConn :=
  match sta with
  | some r => { a with wireless_data := { a.wireless_data with init := r, last := r } }
  | none => a

/-- What `flush_all_appconn_flux_from_wireless` does with the reading of a station. -/
def flushWireless (f : Factors) (a : AppConn) (r : Counters) : AppConn :=
  setAppconnFlux .FLUX_FROM_WIRELESS f { a with wireless_data := { a.wireless_data with cur := r } }

/-- What `flush_all_appconn_flux_from_iptables` reads for a connection: the octets and the packets of a
rule, in the chain of the traffic to the user or in that of the traffic from the user. -/
inductive Reading where
  | down (bcnt pcnt : BitVec 64)
  | up (bcnt pcnt : BitVec 64)
  | none
deriving DecidableEq

/-- The reading is stored. Nothing is stored if `set_appconn_flux` is called once more. -/
def AppConn.stored (a : AppConn) : Reading → AppConn
  | .down bcnt pcnt =>
    { a with iptables_data := fun
      | .input_octets => bcnt
      | .input_packets => pcnt.setWidth 32
      | .output_octets => a.iptables_data .output_octets
      | .output_packets => a.iptables_data .output_packets }
  | .up bcnt pcnt =>
    { a with iptables_data := fun
      | .input_octets => a.iptables_data .input_octets
      | .input_packets => a.iptables_data .input_packets
      | .output_octets => bcnt
      | .output_packets => pcnt.setWidth 32 }
  | .none => a

def flushIptables (flux_from : FluxFrom) (f : Factors) (a : AppConn) (r : Reading) : AppConn :=
  setAppconnFlux flux_from f (a.stored r)

/-! ## What a station has sent -/

/-- What a reading adds to the one before it. A smaller one is counted from zero. -/
def increment (previous reading : Nat) : Nat := if reading < previous then reading else reading - previous

/-- A connection, with the last reading of its station and the sum of the increments since the
login. -/
structure Watched where
  conn : AppConn
  previous : Counter → Nat
  observed : Counter → Nat

/-- The login of a station with a reading, or without one if it is not found. -/
def Watched.login (sta : Option Counters) : Watched where
  conn := appconnInitFluxFromWireless sta appconnNew
  previous c := match sta with
    | some r => (r c).toNat
    | none => 0
  observed _ := 0

def Watched.step (f : Factors) (w : Watched) (r : Counters) : Watched where
  conn := flushWireless f w.conn r
  previous c := (r c).toNat
  observed c := w.observed c + increment (w.previous c) (r c).toNat

/-- The session has what was observed. -/
def Watched.Billed (w : Watched) : Prop := ∀ c, (w.conn.session c).toNat = w.observed c

/-- A reading in which a counter has fallen to a number other than zero. -/
def Watched.reduced (w : Watched) (r : Counters) : Bool :=
  { w.conn.wireless_data with cur := r }.reduced

/-- What has been set aside before the reading, and what the reading sets aside. -/
def Watched.setAside (w : Watched) (r : Counters) (c : Counter) : Nat :=
  (w.conn.wireless_data.fixed c).toNat + if w.reduced r then (w.conn.wireless_data.last c).toNat else 0

/-- The counters do not overflow. -/
def Watched.Fits (w : Watched) (r : Counters) : Prop :=
  ∀ c, w.setAside r c + (r c).toNat < 2 ^ c.width

/-- The session has the counter up to the last reading. -/
def Watched.Level (w : Watched) (c : Counter) : Prop :=
  (w.conn.session c).toNat + (w.conn.wireless_data.init c).toNat =
    (w.conn.wireless_data.fixed c).toNat + (w.conn.wireless_data.last c).toNat

/-- If a counter falls to a number other than zero, this one falls as well, or it was zero. If none
does, this one falls to zero only while nothing more than the reading at the login has been set aside
for it, and stays there from then on. -/
def Watched.RegularAt (w : Watched) (r : Counters) (c : Counter) : Prop :=
  (w.Level c → if w.reduced r then w.conn.wireless_data.last c ≠ 0 → r c < w.conn.wireless_data.last c
    else w.conn.wireless_data.last c ≤ r c ∨
      w.conn.wireless_data.fixed c ≤ w.conn.wireless_data.init c) ∧
  (¬ w.Level c → r c = 0)

def Watched.Regular (w : Watched) (r : Counters) : Prop := ∀ c, w.RegularAt r c

/-! ## One counter -/

section
variable {flux init fixed last r aside : Nat}

/-- The counter of the session, and what it was before its station fell to zero unnoticed. -/
def Tallied (flux init fixed last : Nat) : Prop :=
  flux + init = fixed + last ∨ (last = 0 ∧ fixed ≤ init ∧ fixed < flux + init)

/-- The counter of the session after a reading. -/
def tally (flux init aside r : Nat) : Nat := if aside + r > init then aside + r - init else flux

/-- Readings that are billed, where some counter has fallen. -/
theorem tally_reduced (h : Tallied flux init fixed last) :
    (tally flux init (fixed + last) r = flux + increment last r ↔
      (flux + init = fixed + last → last ≠ 0 → r < last) ∧ (flux + init ≠ fixed + last → r = 0)) ∧
    (tally flux init (fixed + last) r = flux + increment last r →
      Tallied (flux + increment last r) init (fixed + last) r) := by
  unfold tally increment Tallied at *
  split <;> split <;> omega

/-- Readings that are billed, where none has fallen but to zero. -/
theorem tally_kept (h : Tallied flux init fixed last) (hr : r = 0 ∨ last ≤ r) :
    (tally flux init fixed r = flux + increment last r ↔
      (flux + init = fixed + last → last ≤ r ∨ fixed ≤ init) ∧ (flux + init ≠ fixed + last → r = 0)) ∧
    (tally flux init fixed r = flux + increment last r →
      Tallied (flux + increment last r) init fixed r) := by
  unfold tally increment Tallied at *
  split <;> split <;> omega

end

section
variable {f : Factors} {w : Watched} {r : Counters} {c : Counter}

theorem Watched.not_reduced (h : w.reduced r = false) (c : Counter) :
    r c = 0 ∨ w.conn.wireless_data.last c ≤ r c := by
  have hall := List.any_eq_false.mp h c c.mem_all
  have hnot : ¬ (r c ≠ 0 ∧ r c < w.conn.wireless_data.last c) := by simpa using hall
  by_cases h0 : r c = 0
  · exact .inl h0
  · exact .inr (BitVec.not_lt.mp fun hlt => hnot ⟨h0, hlt⟩)

/-- What a step leaves of the data of the station. -/
theorem step_wireless : (w.step f r).conn.wireless_data =
    { w.conn.wireless_data with
      fixed := fun c => w.conn.wireless_data.fixed c +
        if w.reduced r then w.conn.wireless_data.last c else 0
      cur := r
      last := r } := by
  show (AppConn.fromWireless _).wireless_data = _
  unfold AppConn.fromWireless Watched.reduced
  dsimp only
  split
  · rfl
  · simp

theorem step_fixed (hfit : w.Fits r) :
    ((w.step f r).conn.wireless_data.fixed c).toNat = w.setAside r c := by
  have hlt := hfit c
  rw [step_wireless]
  unfold Watched.setAside at hlt ⊢
  dsimp only
  split
  · next hred =>
    rw [if_pos hred] at hlt
    exact BitVec.toNat_add_of_lt (by omega)
  · simp

theorem step_session (hfit : w.Fits r) : ((w.step f r).conn.session c).toNat =
    tally (w.conn.session c).toNat (w.conn.wireless_data.init c).toNat (w.setAside r c) (r c).toNat := by
  have hfixed := @step_fixed f w r c hfit
  have hlt := hfit c
  have hsession : (w.step f r).conn.session c =
      if (w.step f r).conn.wireless_data.fixed c + r c > w.conn.wireless_data.init c then
        (w.step f r).conn.wireless_data.fixed c + r c - w.conn.wireless_data.init c
      else w.conn.session c := by
    rw [step_wireless]
    show (AppConn.fromWireless _).session c = _
    unfold AppConn.fromWireless Watched.reduced
    dsimp only
    split
    · rfl
    · simp
  have hsum : ((w.step f r).conn.wireless_data.fixed c + r c).toNat =
      w.setAside r c + (r c).toNat := by
    rw [BitVec.toNat_add_of_lt (by rw [hfixed]; exact hlt), hfixed]
  rw [hsession, tally]
  by_cases hgt : (w.step f r).conn.wireless_data.fixed c + r c > w.conn.wireless_data.init c
  · have hnat := BitVec.lt_def.mp hgt
    rw [hsum] at hnat
    rw [if_pos hgt, if_pos hnat, BitVec.toNat_sub_of_le (BitVec.le_of_lt hgt), hsum]
  · have hnat : ¬ w.setAside r c + (r c).toNat > (w.conn.wireless_data.init c).toNat := by
      rw [← hsum]
      exact fun h => hgt (BitVec.lt_def.mpr h)
    rw [if_neg hgt, if_neg hnat]

/-- What is known between two readings. -/
def Watched.Inv (w : Watched) : Prop := ∀ c,
  w.previous c = (w.conn.wireless_data.last c).toNat ∧ (w.conn.session c).toNat = w.observed c ∧
    Tallied (w.conn.session c).toNat (w.conn.wireless_data.init c).toNat
      (w.conn.wireless_data.fixed c).toNat (w.conn.wireless_data.last c).toNat

/-- One counter after a reading. -/
theorem step_counter (hI : w.Inv) (hfit : w.Fits r) (c : Counter) :
    (((w.step f r).conn.session c).toNat = (w.step f r).observed c ↔ w.RegularAt r c) ∧
    (((w.step f r).conn.session c).toNat = (w.step f r).observed c →
      Tallied ((w.step f r).conn.session c).toNat ((w.step f r).conn.wireless_data.init c).toNat
        ((w.step f r).conn.wireless_data.fixed c).toNat
        ((w.step f r).conn.wireless_data.last c).toNat) := by
  obtain ⟨hprev, hobs, htal⟩ := hI c
  have hsession := @step_session f w r c hfit
  have hfixed := @step_fixed f w r c hfit
  have hobserved : (w.step f r).observed c =
      (w.conn.session c).toNat + increment (w.conn.wireless_data.last c).toNat (r c).toNat := by
    rw [hobs, ← hprev]
    rfl
  have hinit : (w.step f r).conn.wireless_data.init = w.conn.wireless_data.init := by
    rw [step_wireless]
  have hlast : (w.step f r).conn.wireless_data.last = r := by rw [step_wireless]
  have hzero : ∀ {v : BitVec c.width}, v = 0 ↔ v.toNat = 0 := by
    intro v
    simp [BitVec.toNat_eq]
  rw [hfixed, hinit, hlast, hobserved, Watched.RegularAt, ne_eq, hzero, hzero, BitVec.lt_def, BitVec.le_def, BitVec.le_def]
  rw [hsession]
  unfold Watched.setAside Watched.Level
  cases hred : w.reduced r with
  | true =>
    obtain ⟨hiff, hnext⟩ := @tally_reduced _ _ _ _ (r c).toNat htal
    simp only [if_true]
    exact ⟨hiff, fun heq => by rw [heq]; exact hnext heq⟩
  | false =>
    have hr : (r c).toNat = 0 ∨ (w.conn.wireless_data.last c).toNat ≤ (r c).toNat :=
      (w.not_reduced hred c).imp hzero.mp BitVec.le_def.mp
    obtain ⟨hiff, hnext⟩ := tally_kept htal hr
    simp only [Bool.false_eq_true, if_false, Nat.add_zero]
    exact ⟨hiff, fun heq => by rw [heq]; exact hnext heq⟩

theorem step_inv (hI : w.Inv) (hfit : w.Fits r) (hr : w.Regular r) : (w.step f r).Inv := by
  intro c
  obtain ⟨hiff, hnext⟩ := @step_counter f w r hI hfit c
  have hbilled := hiff.mpr (hr c)
  refine ⟨?_, hbilled, hnext hbilled⟩
  rw [step_wireless]
  rfl

theorem step_not_billed (hI : w.Inv) (hfit : w.Fits r) (hr : ¬ w.Regular r) :
    ¬ (w.step f r).Billed := by
  obtain ⟨c, hc⟩ := Classical.not_forall.mp hr
  exact fun h => hc ((@step_counter f w r hI hfit c).1.mp (h c))

theorem login_inv {sta : Option Counters} : (Watched.login sta).Inv := by
  intro c
  cases sta with
  | none => exact ⟨rfl, rfl, .inl rfl⟩
  | some r =>
    refine ⟨rfl, rfl, .inl ?_⟩
    show 0 + (r c).toNat = 0 + (r c).toNat
    rfl

/-- After every reading the session has the sum of the increments, and its counters have grown. -/
structure Watched.Bills (f : Factors) (w : Watched) (rs : List Counters) : Prop where
  sums : ∀ pre suf, rs = pre ++ suf → (run (Watched.step f) w pre).Billed
  grows : ∀ pre r suf, rs = pre ++ r :: suf → ∀ c,
    (run (Watched.step f) w pre).conn.session c ≤ (run (Watched.step f) w (pre ++ [r])).conn.session c

theorem bills_iff {rs : List Counters} : w.Bills f rs ↔
    ∀ pre suf, rs = pre ++ suf → (run (Watched.step f) w pre).Billed := by
  refine ⟨fun h => h.sums, fun h => ⟨h, ?_⟩⟩
  rintro pre r suf rfl c
  have hbefore := h pre (r :: suf) rfl c
  have hafter := h (pre ++ [r]) suf (by rw [List.append_assoc]; rfl) c
  rw [BitVec.le_def, hbefore, hafter, run_append]
  exact Nat.le_add_right _ _

end

/-- The readings that are billed, as long as the counters do not overflow. -/
theorem wireless_iff {f : Factors} {sta : Option Counters} {rs : List Counters}
    (h : Obeys (Watched.step f) Watched.Fits (Watched.login sta) rs) :
    (Watched.login sta).Bills f rs ↔
      Obeys (Watched.step f) Watched.Regular (Watched.login sta) rs :=
  bills_iff.trans (h.iff_within (fun _ _ hI hfit hr => step_inv hI hfit hr) (fun _ hI c => (hI c).2.1)
    (fun _ _ hI hfit hr => step_not_billed hI hfit hr) login_inv).symm

instance decForall {p : Counter → Prop} [DecidablePred p] : Decidable (∀ c, p c) :=
  decidable_of_iff (∀ c ∈ Counter.all, p c) ⟨fun h c => h c c.mem_all, fun h _ _ => h _⟩

instance (w : Watched) : DecidablePred w.Level := fun _ => inferInstanceAs (Decidable (_ = _))

instance (w : Watched) (r : Counters) : Decidable (w.Fits r) :=
  inferInstanceAs (Decidable (∀ c : Counter, w.setAside r c + (r c).toNat < 2 ^ c.width))

instance (w : Watched) (r : Counters) : DecidablePred (w.RegularAt r) := fun c =>
  inferInstanceAs (Decidable ((w.Level c → if w.reduced r then
    w.conn.wireless_data.last c ≠ 0 → r c < w.conn.wireless_data.last c
    else w.conn.wireless_data.last c ≤ r c ∨
      w.conn.wireless_data.fixed c ≤ w.conn.wireless_data.init c) ∧ (¬ w.Level c → r c = 0)))

instance (w : Watched) (r : Counters) : Decidable (w.Regular r) :=
  inferInstanceAs (Decidable (∀ c, w.RegularAt r c))

/-- A reading with the same number of octets and of packets in both directions. -/
def evenReading (octets : BitVec 64) (packets : BitVec 32) : Counters
  | .input_octets => octets
  | .input_packets => packets
  | .output_octets => octets
  | .output_packets => packets

def thousand : Factors := ⟨1000, 1000⟩

/-- A station whose access point restarts between two readings. -/
theorem restart_billed : (Watched.login (some (evenReading 1000 10))).Bills thousand
    [evenReading 5000 50, evenReading 200 2, evenReading 900 9] :=
  (wireless_iff (by decide +kernel)).mpr (by decide +kernel)

/-- After a restart that is read as zero the session falls back, and what was sent before it is
forgotten. A counter that goes on while another one falls is counted twice. -/
theorem restart_forgotten :
    ¬ (Watched.login (some (evenReading 100 10))).Bills thousand
      [evenReading 500 50, evenReading 0 0, evenReading 200 20] ∧
    (run (Watched.step thousand) (Watched.login (some (evenReading 100 10)))
      [evenReading 500 50, evenReading 0 0]).conn.session .input_octets = 400 ∧
    (run (Watched.step thousand) (Watched.login (some (evenReading 100 10)))
      [evenReading 500 50, evenReading 0 0, evenReading 200 20]).conn.session .input_octets = 100 ∧
    ¬ (Watched.login (some (evenReading 100 10))).Bills thousand
      [evenReading 500 50, evenReading 600 5] := by
  refine ⟨fun h => ?_, by decide +kernel, by decide +kernel, fun h => ?_⟩
  · exact absurd (h.sums _ [] (List.append_nil _).symm .input_octets) (by decide +kernel)
  · exact absurd (h.sums _ [] (List.append_nil _).symm .input_octets) (by decide +kernel)

/-! ## What the packet filter has counted -/

/-- The direction of the traffic, as the session counts it. -/
inductive Direction where
  | input
  | output
deriving DecidableEq, Repr

def Counters.octets (v : Counters) : Direction → BitVec 64
  | .input => v .input_octets
  | .output => v .output_octets

def Counters.packets (v : Counters) : Direction → BitVec 32
  | .input => v .input_packets
  | .output => v .output_packets

def Factors.of (f : Factors) : Direction → BitVec 32
  | .input => f.input_correct_factor
  | .output => f.output_correct_factor

/-- The two modes, with and without the layer 2 headers. -/
def tablesMode (l2 : Bool) : FluxFrom := if l2 then .FLUX_FROM_IPTABLES_L2 else .FLUX_FROM_IPTABLES

/-- What is read for a direction. -/
def Reading.of : Reading → Direction → Option (BitVec 64 × BitVec 64)
  | .down bcnt pcnt, .input => some (bcnt, pcnt)
  | .up bcnt pcnt, .output => some (bcnt, pcnt)
  | _, _ => .none

/-- A connection with the latest octets and packets that were read for each direction. -/
structure Metered where
  conn : AppConn
  octets : Direction → Nat
  packets : Direction → Nat

/-- A connection with the counters `bk` of the session it continues, before the first reading. -/
def Metered.start (bk : Counters) : Metered where
  conn := { appconnNew with bk := bk, session := bk }
  octets _ := 0
  packets _ := 0

def Metered.step (l2 : Bool) (f : Factors) (w : Metered) (e : Reading) : Metered where
  conn := flushIptables (tablesMode l2) f w.conn e
  octets d := match e.of d with
    | some (bcnt, _) => bcnt.toNat
    | .none => w.octets d
  packets d := match e.of d with
    | some (_, pcnt) => pcnt.toNat
    | .none => w.packets d

/-- The octets that are to be billed for a direction, before the correction. -/
def Metered.billable (l2 : Bool) (w : Metered) (d : Direction) : Nat :=
  w.octets d + if l2 then 18 * w.packets d else 0

/-- The session has the octets of the latest readings. -/
def Metered.Billed (l2 : Bool) (f : Factors) (w : Metered) : Prop := ∀ d,
  (w.conn.session.octets d).toNat =
    (w.conn.bk.octets d).toNat + w.billable l2 d * (f.of d).toNat / 1000

/-- What is computed from the latest readings does not overflow. -/
def Metered.Small (l2 : Bool) (f : Factors) (w : Metered) : Prop := ∀ d,
  (l2 → 18 * w.packets d < 2 ^ 32) ∧ w.billable l2 d * (f.of d).toNat < 2 ^ 64 ∧
    (w.conn.bk.octets d).toNat + w.billable l2 d * (f.of d).toNat / 1000 < 2 ^ 64

def Metered.Fits (l2 : Bool) (f : Factors) (w : Metered) (e : Reading) : Prop :=
  (w.step l2 f e).Small l2 f

/-- With the layer 2 headers, a direction that is not read has had no packets. -/
def Metered.Steady (l2 : Bool) (w : Metered) (e : Reading) : Prop :=
  l2 → ∀ d, (e.of d).isSome ∨ w.packets d = 0

section
variable {l2 : Bool} {f : Factors} {w : Metered} {e : Reading} {d : Direction}

/-- The octets of a direction that `set_appconn_flux` leaves in the connection. -/
def keptOctets (l2 : Bool) (o : BitVec 64) (p : BitVec 32) : BitVec 64 := if l2 then withHeaders o p else o

theorem step_tables : (w.step l2 f e).conn.iptables_data.octets d =
      keptOctets l2 ((w.conn.stored e).iptables_data.octets d) ((w.conn.stored e).iptables_data.packets d) ∧
    (w.step l2 f e).conn.iptables_data.packets d = (w.conn.stored e).iptables_data.packets d ∧
    (w.step l2 f e).conn.bk = w.conn.bk ∧
    (w.step l2 f e).conn.session.octets d = w.conn.bk.octets d +
      timesFactor ((w.step l2 f e).conn.iptables_data.octets d) (f.of d) := by
  cases l2 <;> cases e <;> cases d <;> exact ⟨rfl, rfl, rfl, rfl⟩

theorem stored_some {bcnt pcnt : BitVec 64} (h : e.of d = some (bcnt, pcnt)) :
    (w.conn.stored e).iptables_data.octets d = bcnt ∧
      (w.conn.stored e).iptables_data.packets d = pcnt.setWidth 32 := by
  cases e <;> cases d <;> cases h <;> exact ⟨rfl, rfl⟩

theorem stored_none (h : e.of d = none) :
    (w.conn.stored e).iptables_data.octets d = w.conn.iptables_data.octets d ∧
      (w.conn.stored e).iptables_data.packets d = w.conn.iptables_data.packets d := by
  cases e <;> cases d <;> first | exact ⟨rfl, rfl⟩ | cases h

theorem toNat_timesFactor {o : BitVec 64} {k : BitVec 32} :
    (timesFactor o k).toNat = o.toNat * k.toNat % 2 ^ 64 / 1000 := by
  have hk : (k.setWidth 64).toNat = k.toNat := BitVec.toNat_setWidth_of_le (by decide)
  rw [timesFactor, BitVec.toNat_udiv, BitVec.toNat_mul, hk]
  rfl

theorem toNat_withHeaders {o : BitVec 64} {p : BitVec 32} (h : 18 * p.toNat < 2 ^ 32) :
    (withHeaders o p).toNat = (o.toNat + 18 * p.toNat) % 2 ^ 64 := by
  have hp : (p * 18).toNat = 18 * p.toNat := by
    have h18 : (18 : BitVec 32).toNat = 18 := rfl
    rw [BitVec.toNat_mul_of_lt (by rw [h18]; omega), h18, Nat.mul_comm]
  have hset : ((p * 18).setWidth 64).toNat = 18 * p.toNat := by
    rw [BitVec.toNat_setWidth_of_le (by decide), hp]
  rw [withHeaders, BitVec.toNat_add, hset]

/-- What is billed of the octets that are in the connection. -/
theorem billed_octets {o bk : BitVec 64} {k : BitVec 32} {n : Nat} (ho : o.toNat = n % 2 ^ 64)
    (hmul : n * k.toNat < 2 ^ 64) (hsum : bk.toNat + n * k.toNat / 1000 < 2 ^ 64) :
    (bk + timesFactor o k).toNat = bk.toNat + n * k.toNat / 1000 := by
  have htimes : (timesFactor o k).toNat = n * k.toNat / 1000 := by
    rw [toNat_timesFactor, ho, Nat.mod_mul_mod, Nat.mod_eq_of_lt hmul]
  rw [BitVec.toNat_add_of_lt (by rw [htimes]; exact hsum), htimes]

/-- What is known between two readings. -/
structure Metered.Inv (l2 : Bool) (f : Factors) (w : Metered) : Prop where
  billed : w.Billed l2 f
  octets : ∀ d, (w.conn.iptables_data.octets d).toNat = w.billable l2 d % 2 ^ 64
  packets : ∀ d, (w.conn.iptables_data.packets d).toNat = w.packets d % 2 ^ 32

theorem step_octets_some {bcnt pcnt : BitVec 64} (h : e.of d = some (bcnt, pcnt)) :
    (w.step l2 f e).octets d = bcnt.toNat ∧ (w.step l2 f e).packets d = pcnt.toNat := by
  unfold Metered.step
  dsimp only
  rw [h]
  exact ⟨rfl, rfl⟩

theorem step_octets_none (h : e.of d = none) :
    (w.step l2 f e).octets d = w.octets d ∧ (w.step l2 f e).packets d = w.packets d := by
  unfold Metered.step
  dsimp only
  rw [h]
  exact ⟨rfl, rfl⟩

/-- A direction that is read. -/
theorem step_read {bcnt pcnt : BitVec 64} (hfit : w.Fits l2 f e) (h : e.of d = some (bcnt, pcnt)) :
    ((w.step l2 f e).conn.iptables_data.octets d).toNat = (w.step l2 f e).billable l2 d % 2 ^ 64 := by
  obtain ⟨hoct, hpack⟩ := stored_some (w := w) h
  obtain ⟨hoct', hpack'⟩ := @step_octets_some l2 f w e d bcnt pcnt h
  have hsmall := (hfit d).1
  rw [hpack'] at hsmall
  rw [step_tables.1, hoct, hpack, Metered.billable, hoct', hpack', keptOctets]
  cases l2 with
  | false => exact (Nat.mod_eq_of_lt bcnt.isLt).symm
  | true =>
    have hlt := hsmall rfl
    have hp : (pcnt.setWidth 32).toNat = pcnt.toNat := by
      rw [BitVec.toNat_setWidth, Nat.mod_eq_of_lt (by omega)]
    simp only [if_true]
    rw [toNat_withHeaders (by rw [hp]; exact hlt), hp]

/-- A direction that is not read. -/
theorem step_unread (hI : w.Inv l2 f) (hfit : w.Fits l2 f e) (h : e.of d = none) :
    ((w.step l2 f e).conn.iptables_data.octets d).toNat =
      (w.billable l2 d + if l2 then 18 * w.packets d else 0) % 2 ^ 64 := by
  obtain ⟨hoct, hpack⟩ := stored_none (w := w) h
  have hsmall := (hfit d).1
  rw [(@step_octets_none l2 f w e d h).2] at hsmall
  rw [step_tables.1, hoct, hpack, keptOctets]
  cases l2 with
  | false => exact hI.octets d
  | true =>
    have hlt := hsmall rfl
    have hp : (w.conn.iptables_data.packets d).toNat = w.packets d := by
      rw [hI.packets d, Nat.mod_eq_of_lt (by omega)]
    simp only [if_true]
    rw [toNat_withHeaders (by rw [hp]; exact hlt), hp, hI.octets d, Nat.mod_add_mod]

theorem step_packets (hI : w.Inv l2 f) :
    ((w.step l2 f e).conn.iptables_data.packets d).toNat = (w.step l2 f e).packets d % 2 ^ 32 := by
  rw [step_tables.2.1]
  cases h : e.of d with
  | none =>
    rw [(stored_none h).2, (step_octets_none h).2]
    exact hI.packets d
  | some v =>
    obtain ⟨bcnt, pcnt⟩ := v
    rw [(stored_some h).2, (step_octets_some h).2, BitVec.toNat_setWidth]

theorem step_metered (hI : w.Inv l2 f) (hfit : w.Fits l2 f e) (hs : w.Steady l2 e) :
    (w.step l2 f e).Inv l2 f := by
  have hoctets : ∀ d, ((w.step l2 f e).conn.iptables_data.octets d).toNat =
      (w.step l2 f e).billable l2 d % 2 ^ 64 := by
    intro d
    cases h : e.of d with
    | some v => exact step_read hfit h
    | none =>
      have hbill : (w.step l2 f e).billable l2 d =
          w.billable l2 d + if l2 then 18 * w.packets d else 0 := by
        obtain ⟨hoct', hpack'⟩ := @step_octets_none l2 f w e d h
        rw [Metered.billable, Metered.billable, hoct', hpack']
        cases l2 with
        | false => rfl
        | true =>
          -- the headers are added once more, and there are none
          have hzero : w.packets d = 0 := by
            rcases hs rfl d with hsome | hzero
            · rw [h] at hsome
              cases hsome
            · exact hzero
          rw [hzero]
          rfl
      rw [hbill]
      exact step_unread hI hfit h
  refine ⟨fun d => ?_, hoctets, fun d => step_packets hI⟩
  obtain ⟨-, hmul, hsum⟩ := hfit d
  obtain ⟨-, -, hbk, hsession⟩ := @step_tables l2 f w e d
  rw [hbk] at hsum ⊢
  rw [hsession]
  exact billed_octets (hoctets d) hmul hsum

/-- Octets that are counted twice are seen behind the correction, if it is 56 thousandths or more:
the headers of one packet make 1008 then. -/
theorem surplus_billed {n h k : Nat} (hn : n * k < 2 ^ 64) (hh : h < 2 ^ 32) (h18 : 18 ≤ h)
    (hk : k < 2 ^ 32) (h56 : 56 ≤ k) : (n + h) * k % 2 ^ 64 / 1000 ≠ n * k / 1000 := by
  have hlow : 18 * 56 ≤ h * k := Nat.mul_le_mul h18 h56
  have hhigh : h * k ≤ (2 ^ 32 - 1) * (2 ^ 32 - 1) := Nat.mul_le_mul (by omega) (by omega)
  rw [Nat.add_mul]
  by_cases hover : n * k + h * k < 2 ^ 64
  · rw [Nat.mod_eq_of_lt hover]
    omega
  · have hmod : (n * k + h * k) % 2 ^ 64 = n * k + h * k - 2 ^ 64 := by omega
    rw [hmod]
    omega

theorem step_not_steady (h56 : ∀ d, 56 ≤ (f.of d).toNat) (hI : w.Inv l2 f) (hfit : w.Fits l2 f e)
    (hs : ¬ w.Steady l2 e) : ¬ (w.step l2 f e).Billed l2 f := by
  intro hb
  obtain ⟨hl2, hall⟩ := Classical.not_imp.mp hs
  obtain ⟨d, hd⟩ := Classical.not_forall.mp hall
  obtain ⟨hsome, hpackets⟩ := not_or.mp hd
  have hunread : e.of d = none := Option.not_isSome_iff_eq_none.mp hsome
  have hoctets := @step_unread l2 f w e d hI hfit hunread
  obtain ⟨hoct', hpack'⟩ := @step_octets_none l2 f w e d hunread
  have hbill : (w.step l2 f e).billable l2 d = w.billable l2 d := by
    rw [Metered.billable, Metered.billable, hoct', hpack']
  obtain ⟨hlt, hmul, hsum⟩ := hfit d
  have hlt := hlt hl2
  rw [hpack'] at hlt
  obtain ⟨-, -, hbk, hsession⟩ := @step_tables l2 f w e d
  have hbilled := hb d
  rw [hsession, hbk, BitVec.toNat_add, toNat_timesFactor, hoctets, if_pos hl2, Nat.mod_mul_mod,
    hbill] at hbilled
  rw [hbill] at hmul
  rw [hbill, hbk] at hsum
  have hne := surplus_billed hmul hlt (by omega) (f.of d).isLt (h56 d)
  have hq : (w.billable l2 d + 18 * w.packets d) * (f.of d).toNat % 2 ^ 64 < 2 ^ 64 :=
    Nat.mod_lt _ (by decide)
  omega

theorem start_inv {bk : Counters} : (Metered.start bk).Inv l2 f := by
  have hbill : ∀ d, (Metered.start bk).billable l2 d = 0 := by
    intro d
    cases l2 <;> rfl
  refine ⟨fun d => ?_, fun d => ?_, fun d => ?_⟩
  · rw [hbill, Nat.zero_mul]
    cases d <;> rfl
  · rw [hbill]
    cases d <;> rfl
  · cases d <;> rfl

end

/-- In both modes every direction is billed by its latest reading, however often the counters are
computed, if with the layer 2 headers a direction that is not read has had no packets, and, with
corrections that are not very small, only then. -/
theorem tables_iff {l2 : Bool} {f : Factors} {bk : Counters} {es : List Reading}
    (h : Obeys (Metered.step l2 f) (Metered.Fits l2 f) (Metered.start bk) es) :
    (Obeys (Metered.step l2 f) (Metered.Steady l2) (Metered.start bk) es →
      ∀ pre suf, es = pre ++ suf → (run (Metered.step l2 f) (Metered.start bk) pre).Billed l2 f) ∧
    ((∀ d, 56 ≤ (f.of d).toNat) →
      (∀ pre suf, es = pre ++ suf → (run (Metered.step l2 f) (Metered.start bk) pre).Billed l2 f) →
        Obeys (Metered.step l2 f) (Metered.Steady l2) (Metered.start bk) es) := by
  constructor
  · rintro hs pre suf rfl
    have hboth := (obeys_append.mp h).1.and (obeys_append.mp hs).1
    exact (hboth.run_inv (fun _ _ hI hC => step_metered hI hC.1 hC.2) start_inv).billed
  · intro h56
    exact (h.iff_within (fun _ _ hI hfit hs => step_metered hI hfit hs) (fun _ hI => hI.billed)
      (fun _ _ hI hfit hs => step_not_steady h56 hI hfit hs) start_inv).mpr

instance decDirections {p : Direction → Prop} [DecidablePred p] : Decidable (∀ d, p d) :=
  decidable_of_iff (p .input ∧ p .output)
    ⟨fun h d => by cases d; exacts [h.1, h.2], fun h => ⟨h .input, h .output⟩⟩

instance (l2 : Bool) (f : Factors) (w : Metered) : Decidable (w.Billed l2 f) :=
  inferInstanceAs (Decidable (∀ d : Direction, (w.conn.session.octets d).toNat =
    (w.conn.bk.octets d).toNat + w.billable l2 d * (f.of d).toNat / 1000))

instance (l2 : Bool) (f : Factors) (w : Metered) : DecidablePred fun e => w.Fits l2 f e := fun e =>
  inferInstanceAs (Decidable (∀ d, (l2 → 18 * (w.step l2 f e).packets d < 2 ^ 32) ∧
    (w.step l2 f e).billable l2 d * (f.of d).toNat < 2 ^ 64 ∧
    ((w.step l2 f e).conn.bk.octets d).toNat +
      (w.step l2 f e).billable l2 d * (f.of d).toNat / 1000 < 2 ^ 64))

instance (l2 : Bool) (w : Metered) : DecidablePred fun e => w.Steady l2 e := fun e =>
  inferInstanceAs (Decidable (l2 → ∀ d, (e.of d).isSome ∨ w.packets d = 0))

/-- Two readings of one direction, with the layer 2 headers. -/
theorem down_billed :
    (run (Metered.step true thousand) (Metered.start zeroCounters)
      [.down 1000 10, .down 3000 20]).Billed true thousand :=
  (tables_iff (by decide +kernel)).1 (by decide +kernel) _ [] (List.append_nil _).symm

/-- The headers of one direction are added once more when the other one is read. -/
theorem headers_twice :
    ¬ (∀ pre suf, [Reading.down 1000 10, .up 500 5] = pre ++ suf →
      (run (Metered.step true thousand) (Metered.start zeroCounters) pre).Billed true thousand) ∧
    (run (Metered.step true thousand) (Metered.start zeroCounters) [.down 1000 10]).conn.session.octets
      .input = 1180 ∧
    (run (Metered.step true thousand) (Metered.start zeroCounters)
      [.down 1000 10, .up 500 5]).conn.session.octets .input = 1360 :=
  ⟨fun h => absurd (h _ [] (List.append_nil _).symm) (by decide +kernel), by decide +kernel,
    by decide +kernel⟩

end Flux
end Eag
end DaemonGroup
