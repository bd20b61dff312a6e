import DaemonGroup.Pppoe.RadiusAttrs
import DaemonGroup.Lib.Run
import Mathlib.Data.List.Induction

/-!
# DaemonGroup.Pppoe.RadiusAdd

Attributes that are added to a packet (`radius_addattr`) and searched for in it.

* `added_found` — what is found in a packet that has been put together.
-/

namespace DaemonGroup
namespace Pppoe
namespace RadiusAttrs

open Lib Bytes Reads

def RADIUS_AUTHLEN : Nat := 16
def RADIUS_ATTR_VLEN : Nat := 253
def RADIUS_CODE_ACCESS_REQUEST : UInt8 := 1

/-! ## Packets that are put together -/

/-- `pbuf_put` -/
def DataBuf.put (b : DataBuf) (n : Nat) : DataBuf := { b with len := (b.len + n) % 4294967296 }

/-- `pbuf_tailroom` -/
def DataBuf.tailroom (b : DataBuf) : Int := b.size - b.len

/-- `htonl` -/
def htonl (v : UInt32) : List UInt8 :=
  [(v >>> 24).toUInt8, (v >>> 16).toUInt8, (v >>> 8).toUInt8, v.toUInt8]

/-- The length of the packet is put into its header. -/
def DataBuf.setLength (b : DataBuf) : DataBuf :=
  { b with mem := write b.mem 2 [UInt8.ofNat (b.len / 256), UInt8.ofNat (b.len % 256)] }

/-- `radius_packet_init`; `rand` are the octets that the generator yields. -/
def radiusPacketInit (b : DataBuf) (code : UInt8) (rand : {l : List UInt8 // l.length = RADIUS_AUTHLEN}) :
    DataBuf :=
  let packet := b.len
  let b := b.put sizeofRadiusPacket
  let mem := write b.mem packet [code, 0, 0, 20]
  { b with mem := if code = RADIUS_CODE_ACCESS_REQUEST then write mem (packet + 4) rand.val else mem }

/-- The arguments of `radius_addattr`; `data` is the memory that the pointer points to. -/
structure Addition where
  type : UInt8
  vendor_id : UInt32 := 0
  vendor_type : UInt8 := 0
  value : UInt32 := 0
  data : Option (Nat → UInt8) := none
  dlen : UInt16 := 0

/-- The length of the value. -/
def Addition.givenLen (x : Addition) : Nat := if x.dlen ≠ 0 then x.dlen.toNat else 4

/-- The octets of the value, `n` of them if they are not those of `value`. -/
def Addition.octets (x : Addition) (n : Nat) : List UInt8 :=
  match x.data with
  | some data => read data 0 n
  | none => if x.dlen ≠ 0 then List.replicate n 0 else htonl x.value

/-- What is written for a vendor attribute behind its header. The data goes to the front of the
packet, and none of it is left out. The integer is a member of the inner union, which is aligned for it and
begins two octets behind the header. -/
def Addition.writeVendor (x : Addition) (m : Nat → UInt8) (a : Nat) : Nat → UInt8 :=
  if x.data.isSome ∨ x.dlen ≠ 0 then write m 8 (x.octets x.dlen.toNat) else write m (a + 10) (htonl x.value)

/-- `radius_addattr`. The buffer is not made long enough for a vendor attribute. -/
def radiusAddattr (b : DataBuf) (x : Addition) : Option DataBuf :=
  let a := b.len
  if x.type ≠ RADIUS_ATTR_VENDOR_SPECIFIC then
    let vlen := min x.givenLen RADIUS_ATTR_VLEN
    if b.tailroom < (vlen + 2 : Nat) then none
    else
      let b := b.put (vlen + 2)
      let mem := write (write b.mem a [x.type, UInt8.ofNat (vlen + 2)]) (a + 2) (x.octets vlen)
      some { b with mem := mem }.setLength
  else
    let vlen := min x.givenLen (RADIUS_ATTR_VLEN - 8)
    if b.tailroom < (vlen + 8 : Nat) then none
    else
      let b := b.put (vlen + 2)
      let mem := write b.mem a ([x.type, UInt8.ofNat (vlen + 8)] ++ htonl x.vendor_id ++
        [x.vendor_type, UInt8.ofNat (vlen + 2)])
      some { b with mem := x.writeVendor mem a }.setLength

/-! ## What it is for -/

/-- What the value of an addition is searched for with. -/
def Addition.sought (x : Addition) : Sought := ⟨x.type, x.vendor_id, x.vendor_type⟩

/-- The same type, and the same vendor and vendor type if it is a vendor attribute. -/
def Addition.Same (x y : Addition) : Bool :=
  y.type = x.type ∧ (x.type = RADIUS_ATTR_VENDOR_SPECIFIC →
    y.vendor_id = x.vendor_id ∧ y.vendor_type = x.vendor_type)

/-- The value that is added. -/
def Addition.given (x : Addition) : List UInt8 := x.octets x.givenLen

/-- The value of the attribute at `a`, or of the vendor attribute that begins with its vendor type
there. -/
def valueAt (p : DataBuf) (a : Nat) : List UInt8 := read p.mem (a + 2) (alen p a - 2)

/-- For everything that was added, the value that was added first is found behind the header. -/
def Found (b : DataBuf) (xs : List Addition) : Prop :=
  ∀ x ∈ xs, ∃ fuel a y, (radiusGetattr (b.pull sizeofRadiusPacket) x.sought 0 fuel).val = some (.found a) ∧
    xs.find? x.Same = some y ∧ valueAt (b.pull sizeofRadiusPacket) a = y.given

/-- No vendor attribute is added, and a value that is longer than 253 octets only if there is one of
its type already. -/
def Addable (xs : List Addition) : Prop :=
  ∀ ys x zs, xs = ys ++ x :: zs → x.type ≠ RADIUS_ATTR_VENDOR_SPECIFIC ∧
    (x.givenLen ≤ RADIUS_ATTR_VLEN ∨ ∃ y ∈ ys, y.type = x.type)

section
variable {b b' : DataBuf} {x y : Addition} {xs ys zs : List Addition} {n : Nat}

/-! ## The length -/

/-- The length in the header is that of the buffer. -/
structure Framed (b : DataBuf) : Prop where
  length : ntohsAt b.mem 2 = b.len
  head : sizeofRadiusPacket ≤ b.len
  room : b.len ≤ b.size
  size : b.size ≤ 65535

theorem ntohs_setLength (h : b.len ≤ 65535) : ntohsAt b.setLength.mem 2 = b.setLength.len := by
  have hhi : b.setLength.mem 2 = UInt8.ofNat (b.len / 256) := by simp [DataBuf.setLength, write]
  have hlo : b.setLength.mem 3 = UInt8.ofNat (b.len % 256) := by simp [DataBuf.setLength, write]
  show ntohsAt b.setLength.mem 2 = b.len
  rw [ntohsAt, hhi, hlo, UInt8.toNat_ofNat', UInt8.toNat_ofNat']
  omega

theorem put_len (h : b.len + n ≤ 65535) : (b.put n).len = b.len + n :=
  Nat.mod_eq_of_lt (by omega)

theorem Framed.put {m : Nat → UInt8} (h : Framed b) (hn : b.len + n ≤ b.size) :
    Framed { b.put n with mem := m }.setLength ∧
      { b.put n with mem := m }.setLength.len = b.len + n := by
  have hsize := h.size
  have hhead := h.head
  have hlen := @put_len b n (by omega)
  have hset : { b.put n with mem := m }.setLength.len = b.len + n := hlen
  refine ⟨⟨ntohs_setLength (by dsimp only; omega), by omega, ?_, hsize⟩, hset⟩
  rw [hset]
  exact hn

theorem addattr_framed (h : Framed b) (hadd : radiusAddattr b x = some b') : Framed b' := by
  have hroom := h.room
  unfold radiusAddattr DataBuf.tailroom at hadd
  dsimp only at hadd
  split at hadd
  · split at hadd
    · cases hadd
    · obtain rfl := Option.some.inj hadd
      exact (h.put (by omega)).1
  · split at hadd
    · cases hadd
    · obtain rfl := Option.some.inj hadd
      exact (h.put (by omega)).1

/-! ## The attributes -/

/-- The attribute that an addition makes. -/
def Addition.encode (x : Addition) : List UInt8 :=
  [x.type, UInt8.ofNat (min x.givenLen RADIUS_ATTR_VLEN + 2)] ++ x.octets (min x.givenLen RADIUS_ATTR_VLEN)

/-- The attributes of the packet are those of the additions, one after the other. -/
structure Holds (b : DataBuf) (xs : List Addition) : Prop extends Framed b where
  attrs : read b.mem sizeofRadiusPacket (b.len - sizeofRadiusPacket) = xs.flatMap Addition.encode

theorem Addition.length_octets : (x.octets (min x.givenLen RADIUS_ATTR_VLEN)).length =
    min x.givenLen RADIUS_ATTR_VLEN := by
  unfold Addition.octets
  split
  · exact length_read
  · split
    · exact List.length_replicate
    · next hlen => rw [Addition.givenLen, if_neg hlen]; rfl

theorem Addition.length_encode : x.encode.length = min x.givenLen RADIUS_ATTR_VLEN + 2 := by
  rw [encode, List.length_append, length_octets]
  exact Nat.add_comm _ _

/-- The head and the value that are written behind the packet, read back. -/
theorem read_written {m : Nat → UInt8} {a : Nat} {head l : List UInt8} :
    read (write (write m a head) (a + head.length) l) a (head.length + l.length) = head ++ l := by
  have hfront : read (write (write m a head) (a + head.length) l) a head.length = head := by
    rw [read_write_of_disjoint (.inl (Nat.le_refl _)), read_write_self]
  rw [read_add, hfront, read_write_self]

theorem Holds.add (h : Holds b xs) (hv : x.type ≠ RADIUS_ATTR_VENDOR_SPECIFIC)
    (hadd : radiusAddattr b x = some b') : Holds b' (xs ++ [x]) := by
  have hroom := h.room
  have hhead := h.head
  have h20 : sizeofRadiusPacket = 20 := rfl
  refine ⟨addattr_framed h.toFramed hadd, ?_⟩
  unfold radiusAddattr DataBuf.tailroom at hadd
  dsimp only at hadd
  rw [if_pos hv] at hadd
  split at hadd
  · cases hadd
  · obtain rfl := Option.some.inj hadd
    have hlen : (b.put (min x.givenLen RADIUS_ATTR_VLEN + 2)).len =
        b.len + (min x.givenLen RADIUS_ATTR_VLEN + 2) := by
      have hsize := h.size
      exact put_len (by omega)
    have hsplit : b.len + (min x.givenLen RADIUS_ATTR_VLEN + 2) - sizeofRadiusPacket =
        (b.len - sizeofRadiusPacket) + (2 + min x.givenLen RADIUS_ATTR_VLEN) := by omega
    have hend : sizeofRadiusPacket + (b.len - sizeofRadiusPacket) = b.len := by omega
    have hnew := @read_written b.mem b.len
      [x.type, UInt8.ofNat (min x.givenLen RADIUS_ATTR_VLEN + 2)]
      (x.octets (min x.givenLen RADIUS_ATTR_VLEN))
    rw [Addition.length_octets] at hnew
    -- the length in the header is in front of the attributes
    show read (write (write (write b.mem b.len _) _ _) 2 _) sizeofRadiusPacket
      ((b.put _).len - sizeofRadiusPacket) = _
    rw [hlen, hsplit, read_write_of_disjoint (.inr (show 4 ≤ 20 by decide)), read_add, hend,
      read_write_of_disjoint (.inl (by omega)), read_write_of_disjoint (.inl (by omega)), h.attrs,
      List.flatMap_append, List.flatMap_singleton]
    exact congrArg _ hnew

/-! ## The search -/

theorem Holds.pull_len (h : Holds b xs) :
    (b.pull sizeofRadiusPacket).len = (xs.flatMap Addition.encode).length := by
  have hroom := h.room
  have hhead := h.head
  have hsize := h.size
  have h20 : sizeofRadiusPacket = 20 := rfl
  rw [← h.attrs, length_read]
  show (b.len + 4294967296 - sizeofRadiusPacket) % 4294967296 = _
  omega

/-- What lies behind the attributes of `ys`. -/
theorem Holds.read_at (h : Holds b (ys ++ x :: zs)) :
    read (b.pull sizeofRadiusPacket).mem (ys.flatMap Addition.encode).length x.encode.length =
      x.encode := by
  have hattrs := h.attrs
  rw [List.flatMap_append, List.flatMap_cons, ← List.append_assoc] at hattrs
  have hmid := read_middle hattrs
  refine Eq.trans ?_ hmid
  refine List.map_congr_left fun i _ => ?_
  rw [Nat.add_assoc]
  rfl

theorem Holds.type_at (h : Holds b (ys ++ x :: zs)) :
    (b.pull sizeofRadiusPacket).mem (ys.flatMap Addition.encode).length = x.type ∧
      alen (b.pull sizeofRadiusPacket) (ys.flatMap Addition.encode).length = x.encode.length ∧
      valueAt (b.pull sizeofRadiusPacket) (ys.flatMap Addition.encode).length =
        x.octets (min x.givenLen RADIUS_ATTR_VLEN) := by
  have hread := h.read_at
  have hsplit : x.encode.length = 2 + min x.givenLen RADIUS_ATTR_VLEN := by
    rw [Addition.length_encode, Nat.add_comm]
  rw [hsplit, read_add] at hread
  obtain ⟨hhead, hvalue⟩ := List.append_inj hread (by rw [length_read]; rfl)
  obtain ⟨htype, hrest⟩ := List.cons.inj hhead
  have hlen := (List.cons.inj hrest).1
  have hvlen : RADIUS_ATTR_VLEN = 253 := rfl
  have halen : alen (b.pull sizeofRadiusPacket) (ys.flatMap Addition.encode).length =
      x.encode.length := by
    refine (congrArg UInt8.toNat hlen).trans ?_
    rw [UInt8.toNat_ofNat', hsplit]
    omega
  refine ⟨htype, halen, ?_⟩
  rw [valueAt, halen, hsplit, Nat.add_sub_cancel_left]
  exact hvalue

/-- Where the attributes are. -/
theorem Holds.place_eq (h : Holds b (ys ++ zs)) :
    place (b.pull sizeofRadiusPacket) ys.length = (ys.flatMap Addition.encode).length := by
  induction ys using List.reverseRecOn generalizing zs with
  | nil => rfl
  | append_singleton ys x ih =>
    rw [List.append_assoc] at h
    obtain ⟨-, halen, -⟩ := Holds.type_at h
    rw [List.length_append, List.length_singleton, place_succ, ih h, halen, List.flatMap_append,
      List.flatMap_singleton, List.length_append]

theorem Holds.proper (h : Holds b (ys ++ x :: zs)) :
    Proper (b.pull sizeofRadiusPacket) (place (b.pull sizeofRadiusPacket) ys.length) := by
  obtain ⟨-, halen, -⟩ := h.type_at
  have hlen := h.pull_len
  rw [List.flatMap_append, List.flatMap_cons, List.length_append, List.length_append] at hlen
  have hvlen := x.length_encode
  rw [h.place_eq]
  exact ⟨by omega, by omega, by omega⟩

/-- The attributes begin with the types that were added. -/
theorem Holds.matches_iff {q : Sought} (h : Holds b (ys ++ x :: zs))
    (hq : q.type ≠ RADIUS_ATTR_VENDOR_SPECIFIC) :
    Matches (b.pull sizeofRadiusPacket) q (place (b.pull sizeofRadiusPacket) ys.length) ↔
      x.type = q.type := by
  rw [Matches, h.place_eq, h.type_at.1]
  exact and_iff_left fun hv => absurd hv hq

/-- Every place that a search reaches is that of an attribute or the end. -/
theorem Holds.searchable {q : Sought} (h : Holds b xs) (hq : q.type ≠ RADIUS_ATTR_VENDOR_SPECIFIC) :
    Searchable (b.pull sizeofRadiusPacket) q := by
  intro i hr
  refine ⟨?_, fun _ _ hv => absurd hv hq⟩
  rcases Nat.lt_or_ge i xs.length with hlt | hge
  · obtain ⟨ys, x, zs, rfl, rfl⟩ : ∃ ys x zs, xs = ys ++ x :: zs ∧ ys.length = i :=
      ⟨xs.take i, xs[i], xs.drop (i + 1), by simp, by simp; omega⟩
    exact fun _ => h.proper.1
  · intro hhead
    have hend := @Holds.place_eq b xs [] (by rwa [List.append_nil])
    have hle : place (b.pull sizeofRadiusPacket) xs.length ≤ place (b.pull sizeofRadiusPacket) i :=
      hop_mono hge
    have hlen := h.pull_len
    omega

/-- The first attribute of a type is found with its value. -/
theorem Holds.found (h : Holds b (ys ++ x :: zs)) (hv : x.type ≠ RADIUS_ATTR_VENDOR_SPECIFIC)
    (hnone : ∀ y ∈ ys, y.type ≠ x.type) {q : Sought} (hq : q.type = x.type) :
    ∃ fuel a, (radiusGetattr (b.pull sizeofRadiusPacket) q 0 fuel).val = some (.found a) ∧
      valueAt (b.pull sizeofRadiusPacket) a = x.octets (min x.givenLen RADIUS_ATTR_VLEN) := by
  have hqv : q.type ≠ RADIUS_ATTR_VENDOR_SPECIFIC := by rwa [hq]
  have hs := searches_of (h.searchable hqv)
  have hfirst : First (b.pull sizeofRadiusPacket) q ys.length := by
    refine ⟨?_, h.proper, (h.matches_iff hqv).mpr hq.symm⟩
    intro j hj
    obtain ⟨us, y, vs, rfl, rfl⟩ : ∃ us y vs, ys = us ++ y :: vs ∧ us.length = j :=
      ⟨ys.take j, ys[j], ys.drop (j + 1), by simp, by simp; omega⟩
    rw [List.append_assoc, List.cons_append] at h
    refine ⟨h.proper, fun hm => hnone y (by simp) ?_⟩
    rw [(h.matches_iff hqv).mp hm, hq]
  obtain ⟨fuel, hends⟩ := hs.ends
  obtain ⟨r, hr⟩ := Option.ne_none_iff_exists'.mp hends
  have hfound := (hs.finds fuel r hr _).mpr ⟨ys.length, hfirst, rfl⟩
  refine ⟨fuel, _, hr.trans (congrArg some hfound), ?_⟩
  rw [handed, if_neg hqv, h.place_eq]
  exact h.type_at.2.2

theorem init_holds {code : UInt8} {rand : {l : List UInt8 // l.length = RADIUS_AUTHLEN}}
    (hempty : b.len = 0) (hroom : sizeofRadiusPacket ≤ b.size) (hsize : b.size ≤ 65535) :
    Holds (radiusPacketInit b code rand) [] := by
  have hlen : (radiusPacketInit b code rand).len = sizeofRadiusPacket := by
    show (b.put sizeofRadiusPacket).len = _
    have h20 : sizeofRadiusPacket = 20 := rfl
    rw [put_len (by omega), hempty, Nat.zero_add]
  have hhead : ∀ i < 4, (radiusPacketInit b code rand).mem i =
      write b.mem 0 [code, 0, 0, 20] i := by
    intro i hi
    unfold radiusPacketInit
    dsimp only
    rw [hempty]
    split
    · exact write_of_lt (by omega)
    · rfl
  refine ⟨⟨?_, Nat.le_of_eq hlen.symm, by rwa [hlen], hsize⟩, ?_⟩
  · rw [hlen, ntohsAt, hhead 2 (by omega), hhead 3 (by omega)]
    simp [write, sizeofRadiusPacket]
  · rw [hlen]
    rfl

theorem run_holds (h : Holds b ys) (hv : ∀ x ∈ xs, x.type ≠ RADIUS_ATTR_VENDOR_SPECIFIC)
    (hrun : tryRun radiusAddattr b xs = some b') : Holds b' (ys ++ xs) := by
  induction xs generalizing b ys with
  | nil =>
    obtain rfl := Option.some.inj hrun
    rwa [List.append_nil]
  | cons x xs ih =>
    obtain ⟨b₁, hadd, hrest⟩ := Option.bind_eq_some_iff.mp hrun
    have hnext := h.add (hv x (List.mem_cons_self ..)) hadd
    have hall := ih hnext (fun y hy => hv y (List.mem_cons_of_mem _ hy)) hrest
    rwa [List.append_assoc] at hall

theorem Addable.found (h : Addable xs) (hb : Holds b xs) : Found b xs := by
  intro x hx
  have hvendor : ∀ y ∈ xs, y.type ≠ RADIUS_ATTR_VENDOR_SPECIFIC := by
    intro y hy
    obtain ⟨ys, zs, rfl⟩ := List.append_of_mem hy
    exact (h ys y zs rfl).1
  have hsame : ∀ y, x.Same y = true ↔ y.type = x.type := by
    intro y
    unfold Addition.Same
    rw [decide_eq_true_eq]
    exact and_iff_left fun hv => absurd hv (hvendor x hx)
  have hsome : (xs.find? x.Same).isSome := List.find?_isSome.mpr ⟨x, hx, (hsame x).mpr rfl⟩
  obtain ⟨y, hy⟩ := Option.isSome_iff_exists.mp hsome
  obtain ⟨htype, ys, zs, rfl, hnone⟩ := List.find?_eq_some_iff_append.mp hy
  have htype := (hsame y).mp htype
  have hnone : ∀ z ∈ ys, z.type ≠ y.type := by
    intro z hz heq
    have hz := hnone z hz
    rw [(hsame z).mpr (heq.trans htype)] at hz
    cases hz
  obtain ⟨hv, hlen⟩ := h ys y zs rfl
  obtain ⟨fuel, a, hfound, hvalue⟩ := hb.found hv hnone (q := x.sought) htype.symm
  refine ⟨fuel, a, y, hfound, hy, hvalue.trans ?_⟩
  -- nothing of the first value of a type is left out
  have hle : y.givenLen ≤ RADIUS_ATTR_VLEN := by
    rcases hlen with hle | ⟨z, hz, heq⟩
    · exact hle
    · exact absurd heq (hnone z hz)
  rw [Nat.min_eq_left hle]
  rfl

end

/-- The length of a packet is that of its buffer whatever is added, and what is added is found. -/
theorem added_found {b b' : DataBuf} {code : UInt8}
    {rand : {l : List UInt8 // l.length = RADIUS_AUTHLEN}} {xs : List Addition}
    (hempty : b.len = 0) (hroom : sizeofRadiusPacket ≤ b.size) (hsize : b.size ≤ 65535)
    (hrun : tryRun radiusAddattr (radiusPacketInit b code rand) xs = some b') :
    ntohsAt b'.mem 2 = b'.len ∧ (Addable xs → Found b' xs) := by
  have hinit := @init_holds b code rand hempty hroom hsize
  have hframed : Framed b' := tryRun_inv (fun _ _ _ h hadd => addattr_framed h hadd) hinit.toFramed hrun
  refine ⟨hframed.length, fun h => h.found ?_⟩
  refine run_holds hinit (fun x hx => ?_) hrun
  obtain ⟨ys, zs, rfl⟩ := List.append_of_mem hx
  exact (h ys x zs rfl).1

theorem addable_of_forall {xs : List Addition}
    (h : ∀ x ∈ xs, x.type ≠ RADIUS_ATTR_VENDOR_SPECIFIC ∧ x.givenLen ≤ RADIUS_ATTR_VLEN) :
    Addable xs := by
  rintro ys x zs rfl
  obtain ⟨hv, hle⟩ := h x (by simp)
  exact ⟨hv, .inl hle⟩

/-- An empty buffer. -/
def emptyBuf : DataBuf := ⟨fun _ => 0, 0, 4096⟩

def zeroRand : {l : List UInt8 // l.length = RADIUS_AUTHLEN} := ⟨List.replicate 16 0, by decide⟩

/-- A service type, a user name and another service type. -/
def typesAndName : List Addition :=
  [{ type := 6, value := 2 }, { type := 1, data := some fun i => [117, 115, 101, 114].getD i 0, dlen := 4 },
    { type := 6, value := 3 }]

theorem added_found_types : ∃ b',
    tryRun radiusAddattr (radiusPacketInit emptyBuf RADIUS_CODE_ACCESS_REQUEST zeroRand) typesAndName =
      some b' ∧ ntohsAt b'.mem 2 = b'.len ∧ Found b' typesAndName := by
  have hsome : (tryRun radiusAddattr (radiusPacketInit emptyBuf RADIUS_CODE_ACCESS_REQUEST zeroRand)
      typesAndName).isSome := by decide +kernel
  obtain ⟨b', hrun⟩ := Option.isSome_iff_exists.mp hsome
  obtain ⟨hlen, hfound⟩ := added_found (by decide) (by decide) (by decide) hrun
  exact ⟨b', hrun, hlen, hfound (addable_of_forall (by decide +kernel))⟩

/-- The packet with a number of a vendor. -/
def vendorPacket : Option DataBuf :=
  tryRun radiusAddattr (radiusPacketInit emptyBuf RADIUS_CODE_ACCESS_REQUEST zeroRand)
    [{ type := RADIUS_ATTR_VENDOR_SPECIFIC, vendor_id := 9, vendor_type := 1, value := 7 }]

theorem vendorPacket_some : vendorPacket.isSome := by decide +kernel

/-- The number is not found: its attribute ends six octets behind the packet. -/
theorem vendor_lost : ∃ b', vendorPacket = some b' ∧
    ¬ Found b' [{ type := RADIUS_ATTR_VENDOR_SPECIFIC, vendor_id := 9, vendor_type := 1, value := 7 }] := by
  refine ⟨vendorPacket.get vendorPacket_some, (Option.some_get _).symm, fun h => ?_⟩
  obtain ⟨fuel, a, _, hfound, -⟩ := h _ (List.mem_singleton_self _)
  have hlen : ((vendorPacket.get vendorPacket_some).pull sizeofRadiusPacket).len = 6 := by
    decide +kernel
  have halen : alen ((vendorPacket.get vendorPacket_some).pull sizeofRadiusPacket) 0 = 12 := by
    decide +kernel
  obtain ⟨r, hround, hnone⟩ := @round_ends
    ((vendorPacket.get vendorPacket_some).pull sizeofRadiusPacket)
    ⟨RADIUS_ATTR_VENDOR_SPECIFIC, 9, 1⟩ 0 6 0 (.inr (by rw [halen]; decide))
  cases fuel with
  | zero => cases hfound
  | succ fuel =>
    rw [radiusGetattr, hlen] at hfound
    have hloop := (loop_inl hround).symm.trans hfound
    exact hnone a (Option.some.inj hloop)

end RadiusAttrs
end Pppoe
end DaemonGroup
