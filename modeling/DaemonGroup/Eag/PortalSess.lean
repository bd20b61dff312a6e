import DaemonGroup.Eag.Indexes
import DaemonGroup.Eag.Packets

/-!
# DaemonGroup.Eag.PortalSess

The portal sessions (`eag_portal.c`): their list and their two hash tables, by IPv4 and by IPv6 address.

A pointer to a session is the number of its allocation, as for connections. What follows a pointer to a
session that has been freed, or takes one out of a list it is not in, has no result.
-/

namespace DaemonGroup
namespace Eag

open Lib

def EAG_PORTALSESS_HASHSIZE : UInt32 := 101

inductive SessStatus
  | SESS_STATUS_NONE
  | SESS_STATUS_ON_MACBIND
  | SESS_STATUS_MACBOUND
  | SESS_STATUS_CHALLENGED
  | SESS_STATUS_ON_CHAPAUTH
  | SESS_STATUS_ON_PAPAUTH
  | SESS_STATUS_AFF_WAIT
  | SESS_STATUS_LOGOUT_WAIT
  | SESS_STATUS_NTF_LOGOUT_WAIT
deriving DecidableEq, Repr

/-- `portal_sess_event_t`. -/
inductive SessTimer
  | SESS_ONMACBIND_TIMEOUT
  | SESS_MACBOUND_TIMEOUT
  | SESS_CHALLENGED_TIMEOUT
  | SESS_ONAUTH_TIMEOUT
  | SESS_AFF_WAIT_TIMEOUT
  | SESS_LOGOUT_WAIT_TIMEOUT
  | SESS_NTF_LOGOUT_WAIT_TIMEOUT
deriving DecidableEq, Repr

/-- The timer that goes with a status. -/
def SessStatus.timer : SessStatus → Option SessTimer
  | SESS_STATUS_NONE => none
  | SESS_STATUS_ON_MACBIND => some .SESS_ONMACBIND_TIMEOUT
  | SESS_STATUS_MACBOUND => some .SESS_MACBOUND_TIMEOUT
  | SESS_STATUS_CHALLENGED => some .SESS_CHALLENGED_TIMEOUT
  | SESS_STATUS_ON_CHAPAUTH => some .SESS_ONAUTH_TIMEOUT
  | SESS_STATUS_ON_PAPAUTH => some .SESS_ONAUTH_TIMEOUT
  | SESS_STATUS_AFF_WAIT => some .SESS_AFF_WAIT_TIMEOUT
  | SESS_STATUS_LOGOUT_WAIT => some .SESS_LOGOUT_WAIT_TIMEOUT
  | SESS_STATUS_NTF_LOGOUT_WAIT => some .SESS_NTF_LOGOUT_WAIT_TIMEOUT

/-- `struct portal_sess`. An armed timer has the time when it is due. The login is the number of the
REQ_AUTH that the session keeps; no function of the source has it. -/
structure PortalSess where
  user_addr : UserAddr
  status : SessStatus := .SESS_STATUS_NONE
  t_timeout : Option (SessTimer × Int) := none
  retry_count : Int := 0
  reqid : UInt16 := 0
  challenge : List UInt8 := []
  rcvpkt : Packet := fun _ => 0
  username : List UInt8 := []
  is_dm_logout : Bool := false
  login : Nat := 0

namespace PortalSess

/-- The session waits for the RADIUS server. -/
def onAuth (s : PortalSess) : Prop :=
  s.status = .SESS_STATUS_ON_CHAPAUTH ∨ s.status = .SESS_STATUS_ON_PAPAUTH

instance (s : PortalSess) : Decidable s.onAuth := inferInstanceAs (Decidable (_ ∨ _))

/-- The timer is armed, and it is the one of the status. -/
def Armed (s : PortalSess) : Prop := s.t_timeout.map Prod.fst = s.status.timer ∧ s.t_timeout ≠ none

end PortalSess

namespace UserAddr

/-- The two have an address in common. -/
def Meets (u v : UserAddr) : Prop :=
  (u.hasV4 ∧ v.hasV4 ∧ u.user_ip = v.user_ip) ∨ (u.hasV6 ∧ v.hasV6 ∧ u.user_ipv6 = v.user_ipv6)

instance (u v : UserAddr) : Decidable (u.Meets v) := inferInstanceAs (Decidable (_ ∨ _))

theorem Meets.symm {u v : UserAddr} (h : u.Meets v) : v.Meets u := by
  obtain ⟨hu, hv, he⟩ | ⟨hu, hv, he⟩ := h
  · exact .inl ⟨hv, hu, he.symm⟩
  · exact .inr ⟨hv, hu, he.symm⟩

end UserAddr

/-- The sessions: `sess_head`, `htable` and `ipv6_htable` of `struct eag_portal`. -/
structure SessTable where
  sess_head : List Nat := []
  sess : Nat → Option PortalSess := fun _ => none
  htable : Nat → List Nat := fun _ => []
  ipv6_htable : Nat → List Nat := fun _ => []
  brk : Nat := 0

namespace SessTable

def ipHash (user_ip : UInt32) : Nat := hashValueCount [user_ip] [] EAG_PORTALSESS_HASHSIZE

def ipv6Hash (u : In6Addr) : Nat := hashValueCount [u.w0, u.w1, u.w2, u.w3] [] EAG_PORTALSESS_HASHSIZE

section
variable (T : SessTable)

/-- `portal_sess_new`, if there is memory. The session is at `T.brk`. -/
def portalSessNew (user_addr : UserAddr) : SessTable :=
  let n := T.brk
  let T := { T with
    sess_head := n :: T.sess_head
    sess := Function.update T.sess n (some { user_addr := user_addr })
    brk := n + 1 }
  if user_addr.family = EAG_IPV4 then
    { T with htable := AppDb.hashtableCheckAddNode T.htable (ipHash user_addr.user_ip) n }
  else if user_addr.family = EAG_MIX then
    { T with
      htable := AppDb.hashtableCheckAddNode T.htable (ipHash user_addr.user_ip) n
      ipv6_htable := AppDb.hashtableCheckAddNode T.ipv6_htable (ipv6Hash user_addr.user_ipv6) n }
  else if user_addr.family = EAG_IPV6 then
    { T with ipv6_htable := AppDb.hashtableCheckAddNode T.ipv6_htable (ipv6Hash user_addr.user_ipv6) n }
  else T

/-- `hlist_del` for the sessions of some families. -/
def hlistDelIf (p : Prop) [Decidable p] (H : Nat → List Nat) (n : Nat) : Option (Nat → List Nat) :=
  if p then
    if ∃ i ≤ EAG_PORTALSESS_HASHSIZE.toNat, n ∈ H i then some fun i => (H i).erase n else none
  else some H

/-- `portal_sess_free`. -/
def portalSessFree (n : Nat) : Option SessTable := do
  let s ← T.sess n
  if n ∉ T.sess_head then none
  let htable ← hlistDelIf (s.user_addr.family = EAG_IPV4 ∨ s.user_addr.family = EAG_MIX) T.htable n
  let ipv6_htable ←
    hlistDelIf (s.user_addr.family = EAG_IPV6 ∨ s.user_addr.family = EAG_MIX) T.ipv6_htable n
  pure { T with
    sess_head := T.sess_head.erase n, sess := Function.update T.sess n none, htable := htable
    ipv6_htable := ipv6_htable }

/-- The first session of a bucket with `p`. -/
def searchBucket (p : PortalSess → Bool) (l : List Nat) : Option (Option Nat) :=
  l.findM? fun n => (T.sess n).map p

/-- `portal_sess_find_by_userip`. -/
def portalSessFindByUserip (userip : UInt32) : Option (Option Nat) :=
  T.searchBucket (·.user_addr.user_ip = userip) (T.htable (ipHash userip))

/-- `portal_sess_find_by_useripv6`. -/
def portalSessFindByUseripv6 (useripv6 : In6Addr) : Option (Option Nat) :=
  T.searchBucket (·.user_addr.user_ipv6 = useripv6) (T.ipv6_htable (ipv6Hash useripv6))

/-- `portal_sess_find_by_useripx`. Of two sessions for the two addresses of a user, one is freed. -/
def portalSessFindByUseripx (user_addr : UserAddr) : Option (Option Nat × SessTable) :=
  if user_addr.family = EAG_IPV4 then do
    pure (← T.portalSessFindByUserip user_addr.user_ip, T)
  else if user_addr.family = EAG_IPV6 then do
    pure (← T.portalSessFindByUseripv6 user_addr.user_ipv6, T)
  else if user_addr.family = EAG_MIX then do
    let portalsess_v4 ← T.portalSessFindByUserip user_addr.user_ip
    let portalsess_v6 ← T.portalSessFindByUseripv6 user_addr.user_ipv6
    match portalsess_v4, portalsess_v6 with
    | some v4, some v6 =>
      let T ← if v4 ≠ v6 then T.portalSessFree v6 else pure T
      pure (some v4, T)
    | some v4, none => pure (some v4, T)
    | none, v6 => pure (v6, T)
  else some (none, T)

/-- The session `n` is changed; its address is not. -/
def setSess (n : Nat) (s : PortalSess) : SessTable := { T with sess := Function.update T.sess n (some s) }

end

/-- The bucket of `htable` that a session belongs to. -/
def ipPlace (T : SessTable) (n : Nat) : Option Nat :=
  (T.sess n).bind fun s => if s.user_addr.hasV4 then some (ipHash s.user_addr.user_ip) else none

/-- The bucket of `ipv6_htable` that a session belongs to. -/
def ipv6Place (T : SessTable) (n : Nat) : Option Nat :=
  (T.sess n).bind fun s => if s.user_addr.hasV6 then some (ipv6Hash s.user_addr.user_ipv6) else none

/-- The list has the sessions there are, `htable` those with an IPv4 address and `ipv6_htable` those with an
IPv6 address, each under the hash of the address; and no two sessions have an address in common. -/
structure Sound (T : SessTable) : Prop where
  listed : Lists T.sess_head fun n => T.sess n ≠ none
  ip : Files T.htable T.ipPlace
  ipv6 : Files T.ipv6_htable T.ipv6Place
  fresh : ∀ n, T.sess n ≠ none → n < T.brk
  one : ∀ m n s t, T.sess m = some s → T.sess n = some t → s.user_addr.Meets t.user_addr → m = n

/-- The sessions of `T` are sessions of `T'`. -/
def Sub (T T' : SessTable) : Prop := ∀ n s, T.sess n = some s → T'.sess n = some s

theorem Sub.refl (T : SessTable) : T.Sub T := fun _ _ h => h

theorem Sub.trans {T T' T'' : SessTable} (h : T.Sub T') (h' : T'.Sub T'') : T.Sub T'' :=
  fun n s hs => h' n s (h n s hs)

/-- The table without the session `n`. -/
def without (T : SessTable) (n : Nat) : SessTable :=
  { T with
    sess_head := T.sess_head.erase n
    sess := Function.update T.sess n none
    htable := fun i => (T.htable i).erase n
    ipv6_htable := fun i => (T.ipv6_htable i).erase n }

section
variable {T T' : SessTable} {m n : Nat} {s t : PortalSess} {u : UserAddr}

theorem sound_empty : Sound {} := by
  refine ⟨Lists.nil (by simp), Files.empty fun n => rfl, Files.empty fun n => rfl, by simp, by simp⟩

theorem without_sub : (T.without n).Sub T := by
  intro m s hs
  by_cases hm : m = n
  · simp [without, hm] at hs
  · simpa [without, hm] using hs

theorem without_self : (T.without n).sess n = none := by simp [without]

theorem without_of_ne (hm : m ≠ n) : (T.without n).sess m = T.sess m := by simp [without, hm]

theorem hlistDelIf_files {H : Nat → List Nat} {place : Nat → Option Nat} {p : Prop} [Decidable p] {i : Nat}
    (hf : Files H place) (hn : place n = if p then some i else none)
    (hle : i ≤ EAG_PORTALSESS_HASHSIZE.toNat) : hlistDelIf p H n = some fun i => (H i).erase n := by
  rw [hlistDelIf]
  by_cases hp : p
  · rw [if_pos hp] at hn ⊢
    rw [if_pos ⟨i, hle, hf.mem.mpr hn⟩]
  · rw [if_neg hp] at hn ⊢
    rw [AppDb.erase_absent hf hn]

/-- A session that there is can be freed. -/
theorem Sound.free (h : T.Sound) (hs : T.sess n = some s) : T.portalSessFree n = some (T.without n) := by
  have hmem : n ∈ T.sess_head := (h.listed.2 n).mpr (by simp [hs])
  have hip := hlistDelIf_files (p := s.user_addr.hasV4) h.ip (n := n) (i := ipHash s.user_addr.user_ip)
    (by simp [ipPlace, hs]) AppDb.hashValueCount_le
  have hipv6 := hlistDelIf_files (p := s.user_addr.hasV6) h.ipv6 (n := n)
    (i := ipv6Hash s.user_addr.user_ipv6) (by simp [ipv6Place, hs]) AppDb.hashValueCount_le
  simp only [portalSessFree, hs, Option.bind_eq_bind, Option.bind_some, hmem, not_true_eq_false, if_false]
  rw [show hlistDelIf (s.user_addr.family = EAG_IPV4 ∨ s.user_addr.family = EAG_MIX) T.htable n = _ from hip,
    show hlistDelIf (s.user_addr.family = EAG_IPV6 ∨ s.user_addr.family = EAG_MIX) T.ipv6_htable n = _ from
    hipv6]
  rfl

theorem Sound.free_eq (h : T.Sound) (hf : T.portalSessFree n = some T') :
    T' = T.without n ∧ ∃ s, T.sess n = some s := by
  cases hs : T.sess n with
  | none => simp [portalSessFree, hs] at hf
  | some s =>
    rw [h.free hs] at hf
    exact ⟨(Option.some.inj hf).symm, s, rfl⟩

theorem Sound.without (h : T.Sound) : (T.without n).Sound := by
  have hplace : ∀ f : PortalSess → Option Nat, (fun m => ((T.without n).sess m).bind f) =
      Function.update (fun m => (T.sess m).bind f) n none := by
    intro f
    funext m
    by_cases hm : m = n <;> simp [SessTable.without, hm]
  refine ⟨h.listed.erase fun m => ?_, ?_, ?_, fun m hm => ?_, fun k m s t hk hm hmeet => ?_⟩
  · by_cases hm : m = n <;> simp [SessTable.without, hm]
  · rw [show (T.without n).ipPlace = _ from hplace _]
    exact h.ip.out
  · rw [show (T.without n).ipv6Place = _ from hplace _]
    exact h.ipv6.out
  · obtain ⟨s, hs⟩ := Option.ne_none_iff_exists'.mp hm
    exact h.fresh m (by simp [without_sub m s hs])
  · exact h.one k m s t (without_sub k s hk) (without_sub m t hm) hmeet

/-- A session is changed, but not its address. -/
theorem Sound.setSess (h : T.Sound) (hs : T.sess n = some s) (haddr : t.user_addr = s.user_addr) :
    (T.setSess n t).Sound := by
  have hback : ∀ m r, (T.setSess n t).sess m = some r →
      ∃ r', T.sess m = some r' ∧ r'.user_addr = r.user_addr := by
    intro m r hr
    by_cases hm : m = n
    · subst hm
      simp only [SessTable.setSess, Function.update_self, Option.some.injEq] at hr
      exact ⟨s, hs, by rw [← hr, haddr]⟩
    · exact ⟨r, by simpa [SessTable.setSess, hm] using hr, rfl⟩
  have hplace : ∀ f : UserAddr → Option Nat, (fun m => ((T.setSess n t).sess m).bind fun r => f r.user_addr) =
      fun m => (T.sess m).bind fun r => f r.user_addr := by
    intro f
    funext m
    by_cases hm : m = n
    · subst hm
      simp [SessTable.setSess, hs, haddr]
    · simp [SessTable.setSess, hm]
  refine ⟨h.listed.congr fun m => ?_, ?_, ?_, fun m hm => ?_, fun k m r r' hk hm hmeet => ?_⟩
  · by_cases hm : m = n
    · subst hm
      simp [SessTable.setSess, hs]
    · simp [SessTable.setSess, hm]
  · rw [show (T.setSess n t).ipPlace = T.ipPlace from
      hplace fun v => if v.hasV4 then some (ipHash v.user_ip) else none]
    exact h.ip
  · rw [show (T.setSess n t).ipv6Place = T.ipv6Place from
      hplace fun v => if v.hasV6 then some (ipv6Hash v.user_ipv6) else none]
    exact h.ipv6
  · obtain ⟨r, hr⟩ := Option.ne_none_iff_exists'.mp hm
    obtain ⟨r', hr', -⟩ := hback m r hr
    exact h.fresh m (by simp [hr'])
  · obtain ⟨s₁, h₁, e₁⟩ := hback k r hk
    obtain ⟨s₂, h₂, e₂⟩ := hback m r' hm
    exact h.one k m s₁ s₂ h₁ h₂ (by rwa [e₁, e₂])

/-! ## Searches -/

theorem search_live {p : PortalSess → Bool} {l : List Nat} (hl : ∀ n ∈ l, T.sess n ≠ none) :
    T.searchBucket p l = some (l.find? fun n => (T.sess n).any p) := by
  refine findM?_total fun n hn => ?_
  obtain ⟨s, hs⟩ := Option.ne_none_iff_exists'.mp (hl n hn)
  simp [hs]

/-- What a search through one of the tables finds: it is the one session with the key. -/
theorem search_one {p : PortalSess → Bool} {q : PortalSess → Prop} {l : List Nat}
    (hl : ∀ n, n ∈ l ↔ ∃ s, T.sess n = some s ∧ q s)
    (hone : ∀ m n s t, T.sess m = some s → T.sess n = some t → q s → q t → p s → p t → m = n) :
    ∃ r, T.searchBucket p l = some r ∧ ∀ n, r = some n ↔ ∃ s, T.sess n = some s ∧ q s ∧ p s := by
  refine ⟨_, search_live fun n hn => ?_, fun n => ?_⟩
  · obtain ⟨s, hs, -⟩ := (hl n).mp hn
    simp [hs]
  · constructor
    · intro hf
      obtain ⟨s, hs, hq⟩ := (hl n).mp (List.mem_of_find?_eq_some hf)
      have hp := List.find?_some hf
      exact ⟨s, hs, hq, by simpa [hs] using hp⟩
    · rintro ⟨s, hs, hq, hp⟩
      cases hf : l.find? fun n => (T.sess n).any p with
      | none =>
        have := List.find?_eq_none.mp hf n ((hl n).mpr ⟨s, hs, hq⟩)
        simp [hs, hp] at this
      | some m =>
        obtain ⟨t, ht, hqt⟩ := (hl m).mp (List.mem_of_find?_eq_some hf)
        have hpt := List.find?_some hf
        rw [hone m n t s ht hs hqt hq (by simpa [ht] using hpt) hp]

theorem Sound.userip (h : T.Sound) {ip : UInt32} : ∃ r, T.portalSessFindByUserip ip = some r ∧
    ∀ n, r = some n ↔ ∃ s, T.sess n = some s ∧ s.user_addr.hasV4 ∧ s.user_addr.user_ip = ip := by
  have hl : ∀ n, n ∈ T.htable (ipHash ip) ↔
      ∃ s, T.sess n = some s ∧ s.user_addr.hasV4 ∧ ipHash s.user_addr.user_ip = ipHash ip := by
    intro n
    rw [h.ip.mem, ipPlace]
    cases T.sess n <;> simp
  obtain ⟨r, hr, hiff⟩ := search_one (p := fun s => s.user_addr.user_ip = ip) hl
    fun m n s t hm hn hs ht hps hpt => h.one m n s t hm hn
      (.inl ⟨hs.1, ht.1, (of_decide_eq_true hps).trans (of_decide_eq_true hpt).symm⟩)
  refine ⟨r, hr, fun n => (hiff n).trans ⟨?_, ?_⟩⟩
  · rintro ⟨s, hs, hq, hp⟩
    exact ⟨s, hs, hq.1, of_decide_eq_true hp⟩
  · rintro ⟨s, hs, hv, hip⟩
    exact ⟨s, hs, ⟨hv, by rw [hip]⟩, decide_eq_true hip⟩

theorem Sound.useripv6 (h : T.Sound) {ip : In6Addr} : ∃ r, T.portalSessFindByUseripv6 ip = some r ∧
    ∀ n, r = some n ↔ ∃ s, T.sess n = some s ∧ s.user_addr.hasV6 ∧ s.user_addr.user_ipv6 = ip := by
  have hl : ∀ n, n ∈ T.ipv6_htable (ipv6Hash ip) ↔
      ∃ s, T.sess n = some s ∧ s.user_addr.hasV6 ∧ ipv6Hash s.user_addr.user_ipv6 = ipv6Hash ip := by
    intro n
    rw [h.ipv6.mem, ipv6Place]
    cases T.sess n <;> simp
  obtain ⟨r, hr, hiff⟩ := search_one (p := fun s => s.user_addr.user_ipv6 = ip) hl
    fun m n s t hm hn hs ht hps hpt => h.one m n s t hm hn
      (.inr ⟨hs.1, ht.1, (of_decide_eq_true hps).trans (of_decide_eq_true hpt).symm⟩)
  refine ⟨r, hr, fun n => (hiff n).trans ⟨?_, ?_⟩⟩
  · rintro ⟨s, hs, hq, hp⟩
    exact ⟨s, hs, hq.1, of_decide_eq_true hp⟩
  · rintro ⟨s, hs, hv, hip⟩
    exact ⟨s, hs, ⟨hv, by rw [hip]⟩, decide_eq_true hip⟩

/-- What `portal_sess_find_by_useripx` finds is the only session left that has one of the addresses. If it
finds nothing there is none. -/
structure Found (T : SessTable) (u : UserAddr) (r : Option Nat) (T' : SessTable) : Prop where
  sound : T'.Sound
  sub : T'.Sub T
  none : r = none → T' = T ∧ ∀ n s, T.sess n = some s → ¬ u.Meets s.user_addr
  some : ∀ n, r = some n → (∃ s, T'.sess n = some s ∧ u.Meets s.user_addr) ∧
    ∀ m s, T'.sess m = some s → u.Meets s.user_addr → m = n

/-- A search with one key. -/
theorem found_one (h : T.Sound) {K : PortalSess → Prop} {r : Option Nat}
    (hu : ∀ s, u.Meets s.user_addr ↔ K s) (hr : ∀ n, r = some n ↔ ∃ s, T.sess n = some s ∧ K s) :
    Found T u r T := by
  refine ⟨h, Sub.refl T, fun hn => ⟨rfl, fun n s hs hmeet => ?_⟩, fun n hn => ⟨?_, fun m s hs hmeet => ?_⟩⟩
  · have := (hr n).mpr ⟨s, hs, (hu s).mp hmeet⟩
    rw [hn] at this
    cases this
  · obtain ⟨s, hs, hK⟩ := (hr n).mp hn
    exact ⟨s, hs, (hu s).mpr hK⟩
  · have := (hr m).mpr ⟨s, hs, (hu s).mp hmeet⟩
    rw [hn] at this
    exact (Option.some.inj this).symm

/-- A search with two keys: what is found with the second one, and not with the first one, goes. -/
theorem found_two (h : T.Sound) {K₄ K₆ : PortalSess → Prop} {a b : Nat} (hab : a ≠ b)
    (hu : ∀ s, u.Meets s.user_addr ↔ K₄ s ∨ K₆ s) (ha : ∀ n, a = n ↔ ∃ s, T.sess n = some s ∧ K₄ s)
    (hb : ∀ n, b = n ↔ ∃ s, T.sess n = some s ∧ K₆ s) : Found T u (some a) (T.without b) := by
  refine ⟨h.without, without_sub, by simp, fun n hn => ⟨?_, fun m s hs hmeet => ?_⟩⟩
  · obtain rfl := Option.some.inj hn
    obtain ⟨s, hs, hK⟩ := (ha a).mp rfl
    exact ⟨s, by rwa [without_of_ne hab], (hu s).mpr (.inl hK)⟩
  · obtain rfl := Option.some.inj hn
    have hmb : m ≠ b := by
      rintro rfl
      rw [without_self] at hs
      cases hs
    rw [without_of_ne hmb] at hs
    obtain hK | hK := (hu s).mp hmeet
    · exact ((ha m).mpr ⟨s, hs, hK⟩).symm
    · exact absurd ((hb m).mpr ⟨s, hs, hK⟩).symm hmb

theorem Sound.find (h : T.Sound) (u : UserAddr) :
    ∃ r T', T.portalSessFindByUseripx u = some (r, T') ∧ Found T u r T' := by
  obtain ⟨r₄, h₄, hr₄⟩ := @SessTable.Sound.userip _ h u.user_ip
  obtain ⟨r₆, h₆, hr₆⟩ := @SessTable.Sound.useripv6 _ h u.user_ipv6
  have h64 : EAG_IPV6 ≠ EAG_IPV4 := by decide
  have h46 : EAG_IPV4 ≠ EAG_IPV6 := by decide
  have h4m : EAG_IPV4 ≠ EAG_MIX := by decide
  have h6m : EAG_IPV6 ≠ EAG_MIX := by decide
  have hm4 : EAG_MIX ≠ EAG_IPV4 := by decide
  have hm6 : EAG_MIX ≠ EAG_IPV6 := by decide
  by_cases hf4 : u.family = EAG_IPV4
  · refine ⟨r₄, T, by simp [portalSessFindByUseripx, hf4, h₄], found_one h (fun s => ?_) hr₄⟩
    simp [UserAddr.Meets, UserAddr.hasV4, UserAddr.hasV6, hf4, h46, h4m, eq_comm]
  by_cases hf6 : u.family = EAG_IPV6
  · refine ⟨r₆, T, by simp [portalSessFindByUseripx, hf6, h64, h₆], found_one h (fun s => ?_) hr₆⟩
    simp [UserAddr.Meets, UserAddr.hasV4, UserAddr.hasV6, hf6, h64, h6m, eq_comm]
  by_cases hfm : u.family = EAG_MIX
  · have hu : ∀ s : PortalSess, u.Meets s.user_addr ↔
        (s.user_addr.hasV4 ∧ s.user_addr.user_ip = u.user_ip) ∨
          (s.user_addr.hasV6 ∧ s.user_addr.user_ipv6 = u.user_ipv6) := by
      intro s
      simp [UserAddr.Meets, UserAddr.hasV4, UserAddr.hasV6, hfm, eq_comm]
    cases r₄ with
    | none =>
      refine ⟨r₆, T, by simp [portalSessFindByUseripx, hfm, hm4, hm6, h₄, h₆], found_one h hu fun n => ?_⟩
      refine (hr₆ n).trans ⟨?_, ?_⟩
      · rintro ⟨s, hs, hK⟩
        exact ⟨s, hs, .inr hK⟩
      · rintro ⟨s, hs, hK | hK⟩
        · exact absurd ((hr₄ n).mpr ⟨s, hs, hK⟩) (by simp)
        · exact ⟨s, hs, hK⟩
    | some a =>
      by_cases hb : ∃ b, r₆ = some b ∧ a ≠ b
      · obtain ⟨b, rfl, hab⟩ := hb
        obtain ⟨s, hs, -⟩ := (hr₆ b).mp rfl
        refine ⟨some a, T.without b, ?_, found_two h hab hu (fun n => ?_) fun n => ?_⟩
        · simp [portalSessFindByUseripx, hfm, hm4, hm6, h₄, h₆, hab, h.free hs]
        · rw [← hr₄ n, Option.some.injEq]
        · rw [← hr₆ n, Option.some.injEq]
      · have h6a : ∀ n, r₆ = some n → a = n := fun n hn => Classical.byContradiction fun hne => hb ⟨n, hn, hne⟩
        refine ⟨some a, T, ?_, found_one h hu fun n => ?_⟩
        · cases r₆ with
          | none => simp [portalSessFindByUseripx, hfm, hm4, hm6, h₄, h₆]
          | some b => simp [portalSessFindByUseripx, hfm, hm4, hm6, h₄, h₆, h6a b rfl]
        · refine (hr₄ n).trans ⟨?_, ?_⟩
          · rintro ⟨s, hs, hK⟩
            exact ⟨s, hs, .inl hK⟩
          · rintro ⟨s, hs, hK | hK⟩
            · exact ⟨s, hs, hK⟩
            · rw [← hr₄ n, h6a n ((hr₆ n).mpr ⟨s, hs, hK⟩)]
  · refine ⟨none, T, by simp [portalSessFindByUseripx, hf4, hf6, hfm], h, Sub.refl T, fun _ =>
      ⟨rfl, fun n s _ hmeet => ?_⟩, by simp⟩
    simp [UserAddr.Meets, UserAddr.hasV4, UserAddr.hasV6, hf4, hf6, hfm] at hmeet

theorem Sound.found (h : T.Sound) {r : Option Nat} (hf : T.portalSessFindByUseripx u = some (r, T')) :
    Found T u r T' := by
  obtain ⟨r₁, T₁, hf₁, hfound⟩ := h.find u
  rw [hf] at hf₁
  cases hf₁
  exact hfound

/-- A session that is the only one with an address of `u` is found, and nothing is changed. -/
theorem Sound.find_only (h : T.Sound) (hs : T.sess n = some s) (hmeet : u.Meets s.user_addr)
    (hone : ∀ m t, T.sess m = some t → u.Meets t.user_addr → m = n) :
    T.portalSessFindByUseripx u = some (some n, T) := by
  obtain ⟨r₄, h₄, hr₄⟩ := @SessTable.Sound.userip _ h u.user_ip
  obtain ⟨r₆, h₆, hr₆⟩ := @SessTable.Sound.useripv6 _ h u.user_ipv6
  have hm4 : EAG_MIX ≠ EAG_IPV4 := by decide
  have hm6 : EAG_MIX ≠ EAG_IPV6 := by decide
  have h46 : EAG_IPV4 ≠ EAG_IPV6 := by decide
  have h4m : EAG_IPV4 ≠ EAG_MIX := by decide
  have h64 : EAG_IPV6 ≠ EAG_IPV4 := by decide
  have h6m : EAG_IPV6 ≠ EAG_MIX := by decide
  -- each of the searches that are made finds the session or nothing
  have hin₄ : u.hasV4 → ∀ m, r₄ = some m → m = n := by
    intro hv m hm
    obtain ⟨t, ht, htv, hip⟩ := (hr₄ m).mp hm
    exact hone m t ht (.inl ⟨hv, htv, hip.symm⟩)
  have hin₆ : u.hasV6 → ∀ m, r₆ = some m → m = n := by
    intro hv m hm
    obtain ⟨t, ht, htv, hip⟩ := (hr₆ m).mp hm
    exact hone m t ht (.inr ⟨hv, htv, hip.symm⟩)
  obtain ⟨hu, hv, hip⟩ | ⟨hu, hv, hip⟩ := hmeet
  · have hr : r₄ = some n := (hr₄ n).mpr ⟨s, hs, hv, hip.symm⟩
    subst hr
    obtain hf | hf := hu
    · simp [portalSessFindByUseripx, hf, h₄]
    · cases r₆ with
      | none => simp [portalSessFindByUseripx, hf, hm4, hm6, h₄, h₆]
      | some b =>
        obtain rfl := hin₆ (.inr hf) b rfl
        simp [portalSessFindByUseripx, hf, hm4, hm6, h₄, h₆]
  · have hr : r₆ = some n := (hr₆ n).mpr ⟨s, hs, hv, hip.symm⟩
    subst hr
    obtain hf | hf := hu
    · simp [portalSessFindByUseripx, hf, h64, h₆]
    · cases r₄ with
      | none => simp [portalSessFindByUseripx, hf, hm4, hm6, h₄, h₆]
      | some b =>
        obtain rfl := hin₄ (.inr hf) b rfl
        simp [portalSessFindByUseripx, hf, hm4, hm6, h₄, h₆]

/-- What `portal_sess_new` does, table by table. -/
theorem portalSessNew_eq : T.portalSessNew u =
    { T with
      sess_head := T.brk :: T.sess_head
      sess := Function.update T.sess T.brk (some { user_addr := u })
      brk := T.brk + 1
      htable := if u.hasV4 then AppDb.hashtableCheckAddNode T.htable (ipHash u.user_ip) T.brk else T.htable
      ipv6_htable := if u.hasV6 then
        AppDb.hashtableCheckAddNode T.ipv6_htable (ipv6Hash u.user_ipv6) T.brk else T.ipv6_htable } := by
  have h46 : EAG_IPV4 ≠ EAG_IPV6 := by decide
  have h4m : EAG_IPV4 ≠ EAG_MIX := by decide
  have h6m : EAG_IPV6 ≠ EAG_MIX := by decide
  by_cases h4 : u.family = EAG_IPV4
  · simp [portalSessNew, UserAddr.hasV4, UserAddr.hasV6, h4, h46, h4m]
  · by_cases hm : u.family = EAG_MIX
    · simp [portalSessNew, UserAddr.hasV4, UserAddr.hasV6, hm, Ne.symm h4m]
    · by_cases h6 : u.family = EAG_IPV6
      · simp [portalSessNew, UserAddr.hasV4, UserAddr.hasV6, h6, Ne.symm h46, h6m]
      · simp [portalSessNew, UserAddr.hasV4, UserAddr.hasV6, h4, hm, h6]

theorem Sound.next (h : T.Sound) : T.sess T.brk = none := by
  cases hs : T.sess T.brk with
  | none => rfl
  | some s => exact absurd (h.fresh T.brk (by simp [hs])) (Nat.lt_irrefl _)

/-- A session is made for an address that none has. -/
theorem Sound.new (h : T.Sound) (hnone : ∀ n s, T.sess n = some s → ¬ u.Meets s.user_addr) :
    (T.portalSessNew u).Sound := by
  have hplace : ∀ f : UserAddr → Option Nat,
      (fun m => (Function.update T.sess T.brk (some { user_addr := u }) m).bind fun r => f r.user_addr) =
      Function.update (fun m => (T.sess m).bind fun r => f r.user_addr) T.brk (f u) := by
    intro f
    funext m
    by_cases hm : m = T.brk <;> simp [hm]
  rw [portalSessNew_eq]
  refine ⟨h.listed.cons (by simp [h.next]) fun m => ?_, ?_, ?_, fun m hm => ?_, fun k m s t hk hm hmeet => ?_⟩
  · by_cases hm : m = T.brk <;> simp [hm]
  · exact (congrArg (Files _) (hplace fun v => if v.hasV4 then some (ipHash v.user_ip) else none)).mpr
      (AppDb.files_add h.ip (by simp [ipPlace, h.next]))
  · exact (congrArg (Files _) (hplace fun v => if v.hasV6 then some (ipv6Hash v.user_ipv6) else none)).mpr
      (AppDb.files_add h.ipv6 (by simp [ipv6Place, h.next]))
  · by_cases hb : m = T.brk
    · rw [hb]
      exact Nat.lt_succ_self _
    · exact Nat.lt_succ_of_lt (h.fresh m (by simpa [hb] using hm))
  · by_cases hkb : k = T.brk
    · by_cases hmb : m = T.brk
      · rw [hkb, hmb]
      · simp only [hkb, Function.update_self, Option.some.injEq] at hk
        simp only [Function.update_of_ne hmb] at hm
        subst hk
        exact absurd hmeet (hnone m t hm)
    · simp only [Function.update_of_ne hkb] at hk
      by_cases hmb : m = T.brk
      · simp only [hmb, Function.update_self, Option.some.injEq] at hm
        subst hm
        exact absurd hmeet.symm (hnone k s hk)
      · simp only [Function.update_of_ne hmb] at hm
        exact h.one k m s t hk hm hmeet

end

end SessTable

end Eag
end DaemonGroup
