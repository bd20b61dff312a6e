import Mathlib.Data.Nat.Basic

/-!
# DaemonGroup.Lib.Hosts

Host addresses: the numbers whose last octet is neither 0 nor 255. `hosts lo up` counts the steps
from one host address to another, `hostAt lo i` is the host address `i` steps behind `lo`, and
`hostAt_spec` and `hostAt_hosts` say that the two are inverse to each other within a range.
-/

namespace DaemonGroup
namespace Lib

def IsHost (n : Nat) : Prop := 1 ≤ n % 256 ∧ n % 256 ≤ 254

def hosts (lo up : Nat) : Nat := up - lo - 2 * (up / 256 - lo / 256)

def hostAt (lo i : Nat) : Nat :=
  lo + i / 254 * 256 + i % 254 + if 255 ≤ i % 254 + lo % 256 then 2 else 0

theorem hosts_add {h s k m : Nat} (hs : s < 256) (hm : m < 256) :
    hosts (256 * h + s) (256 * (h + k) + m) = 254 * k + m - s := by
  have h₁ : (256 * h + s) / 256 = h := by omega
  have h₂ : (256 * (h + k) + m) / 256 = h + k := by omega
  rw [hosts, h₁, h₂]
  omega

theorem hostAt_spec {lo up i : Nat} (hl : IsHost lo) (hu : IsHost up) (hle : lo ≤ up)
    (hi : i ≤ hosts lo up) :
    hostAt lo i ≤ up ∧ IsHost (hostAt lo i) ∧ lo ≤ hostAt lo i ∧ hosts lo (hostAt lo i) = i := by
  obtain ⟨hl₁, hl₂⟩ := hl
  obtain ⟨hu₁, hu₂⟩ := hu
  -- blocks of 256 addresses: `lo` is `s` into block `h`, `up` is `m` into block `h + k`
  obtain ⟨h, s, hlo, hs⟩ : ∃ h s, lo = 256 * h + s ∧ s = lo % 256 := ⟨lo / 256, _, by omega, rfl⟩
  obtain ⟨k, m, hup, hm⟩ : ∃ k m, up = 256 * (h + k) + m ∧ m = up % 256 :=
    ⟨up / 256 - h, _, by omega, rfl⟩
  rw [← hs] at hl₁ hl₂
  rw [← hm] at hu₁ hu₂
  rw [hlo, hup, hosts_add (by omega) (by omega)] at hi
  rw [hostAt, ← hs]
  clear hs hm
  subst hlo hup
  have hr := Nat.mod_lt i (show 0 < 254 by decide)
  have hd := Nat.div_add_mod i 254
  generalize i / 254 = n at *
  generalize i % 254 = r at *
  split
  · have hx : 256 * h + s + n * 256 + r + 2 = 256 * (h + (n + 1)) + (s + r - 254) := by omega
    rw [hx, hosts_add (by omega) (by omega), IsHost]
    omega
  · have hx : 256 * h + s + n * 256 + r + 0 = 256 * (h + n) + (s + r) := by omega
    rw [hx, hosts_add (by omega) (by omega), IsHost]
    omega

theorem hostAt_hosts {lo a : Nat} (hl : IsHost lo) (ha : IsHost a) (hle : lo ≤ a) :
    hostAt lo (hosts lo a) = a := by
  obtain ⟨hl₁, hl₂⟩ := hl
  obtain ⟨ha₁, ha₂⟩ := ha
  obtain ⟨h, s, hlo, hs⟩ : ∃ h s, lo = 256 * h + s ∧ s = lo % 256 := ⟨lo / 256, _, by omega, rfl⟩
  obtain ⟨k, m, hup, hm⟩ : ∃ k m, a = 256 * (h + k) + m ∧ m = a % 256 :=
    ⟨a / 256 - h, _, by omega, rfl⟩
  rw [← hs] at hl₁ hl₂
  rw [← hm] at ha₁ ha₂
  rw [hostAt, ← hs, hlo, hup, hosts_add (by omega) (by omega)]
  clear hs hm
  subst hlo hup
  split <;> omega

theorem hosts_mono {lo a up : Nat} (hl : IsHost lo) (ha : IsHost a) (hu : IsHost up)
    (hla : lo ≤ a) (hau : a ≤ up) : hosts lo a ≤ hosts lo up := by
  obtain ⟨hl₁, hl₂⟩ := hl
  obtain ⟨ha₁, ha₂⟩ := ha
  obtain ⟨hu₁, hu₂⟩ := hu
  unfold hosts
  omega

/-! ## Octets of 32-bit numbers -/

theorem toNat_high (x : UInt32) : (x >>> 8).toNat = x.toNat / 256 := by
  simp [UInt32.toNat_shiftRight, Nat.shiftRight_eq_div_pow]

theorem toNat_low (x : UInt32) : (x &&& 0xff).toNat = x.toNat % 256 := by
  rw [UInt32.toNat_and]
  exact Nat.and_two_pow_sub_one_eq_mod x.toNat 8

theorem toNat_up (x : UInt32) : (x <<< 8).toNat = x.toNat * 256 % 4294967296 := by
  simp [UInt32.toNat_shiftLeft, Nat.shiftLeft_eq]

/-- The count of steps, computed in 32 bits. -/
theorem hosts_toNat {lo up : UInt32} (hl : IsHost lo.toNat) (hu : IsHost up.toNat) (h : lo ≤ up) :
    (up - lo - ((up >>> 8) - (lo >>> 8)) * 2).toNat = hosts lo.toNat up.toNat := by
  obtain ⟨hl₁, hl₂⟩ := hl
  obtain ⟨hu₁, hu₂⟩ := hu
  have hle : lo.toNat ≤ up.toNat := UInt32.le_iff_toNat_le.mp h
  have hlt := up.toNat_lt
  have h₁ : (up - lo).toNat = up.toNat - lo.toNat := UInt32.toNat_sub_of_le _ _ h
  have h₂ : ((up >>> 8) - (lo >>> 8)).toNat = up.toNat / 256 - lo.toNat / 256 := by
    rw [UInt32.toNat_sub_of_le, toNat_high, toNat_high]
    rw [UInt32.le_iff_toNat_le, toNat_high, toNat_high]
    omega
  have h₃ : (((up >>> 8) - (lo >>> 8)) * 2).toNat = 2 * (up.toNat / 256 - lo.toNat / 256) := by
    rw [UInt32.toNat_mul, h₂]
    simp only [UInt32.reduceToNat]
    omega
  rw [UInt32.toNat_sub_of_le, h₁, h₃, hosts]
  rw [UInt32.le_iff_toNat_le, h₁, h₃]
  omega

end Lib
end DaemonGroup
