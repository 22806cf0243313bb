import FederationTrust.Envelope
import FederationTrust.Proofs.Texts

/-!
# Base64 read back

Encoding passes through six-bit numbers: octets become such numbers by threes, and each number
has a letter. Either passage can be undone, so a text that was encoded is decoded to the octets
it was encoded from, whatever remains in the last group. The letters are neither white space nor
equals signs, so the tolerance of a reader takes none of them away.
-/

namespace FederationTrust

namespace Base64

/-- The six-bit numbers of a string of octets; the unused bits of the last are zero. -/
def sextets : Bytes → List Nat
  | [] => []
  | [x] => [x.toNat / 4, x.toNat % 4 * 16]
  | [x, y] => [x.toNat / 4, x.toNat % 4 * 16 + y.toNat / 16, y.toNat % 16 * 4]
  | x :: y :: z :: rest =>
    x.toNat / 4 :: (x.toNat % 4 * 16 + y.toNat / 16) :: (y.toNat % 16 * 4 + z.toNat / 64)
      :: z.toNat % 64 :: sextets rest

theorem sextets_lt (b : Bytes) : ∀ n ∈ sextets b, n < 64 := by
  fun_induction sextets b with
  | case1 => exact nofun
  | case2 x =>
    have := x.toNat_lt
    simp only [List.forall_mem_cons]
    exact ⟨by omega, by omega, nofun⟩
  | case3 x y =>
    have := x.toNat_lt
    have := y.toNat_lt
    simp only [List.forall_mem_cons]
    exact ⟨by omega, by omega, by omega, nofun⟩
  | case4 x y z rest ih =>
    have := x.toNat_lt
    have := y.toNat_lt
    have := z.toNat_lt
    simp only [List.forall_mem_cons]
    exact ⟨by omega, by omega, by omega, by omega, ih⟩

theorem encode_eq_map_letter (a : Alphabet) (b : Bytes) :
    encode a b = (sextets b).map a.letter := by
  fun_induction sextets b with
  | case1 | case2 | case3 => rfl
  | case4 x y z rest ih => simp only [encode, ih, List.map_cons]

theorem ofNat_eq {n : Nat} {x : UInt8} (h : n = x.toNat) : UInt8.ofNat n = x := by
  rw [h, UInt8.ofNat_toNat]

/-- The octets are put together again from their six-bit numbers. -/
theorem join?_sextets (b : Bytes) : join? (sextets b) = some b := by
  fun_induction sextets b with
  | case1 => rfl
  | case2 x =>
    rw [join?, if_pos (by omega), ofNat_eq (x := x) (by omega)]
  | case3 x y =>
    have := y.toNat_lt
    rw [join?, if_pos (by omega), ofNat_eq (x := x) (by omega), ofNat_eq (x := y) (by omega)]
  | case4 x y z rest ih =>
    have := y.toNat_lt
    have := z.toNat_lt
    rw [join?, ih, Option.map_some, ofNat_eq (x := x) (by omega), ofNat_eq (x := y) (by omega),
      ofNat_eq (x := z) (by omega)]

/-- An alphabet whose letters are read as the numbers they are written for. -/
def Alphabet.Faithful (a : Alphabet) : Prop :=
  ∀ n < 64, a.value? (a.letter n) = some n

theorem urlSafe_faithful : urlSafe.Faithful := by
  have each : ∀ n : Fin 64, urlSafe.value? (urlSafe.letter n) = some n.val := by decide
  exact fun n small => each ⟨n, small⟩

/-- What is encoded is decoded to the same octets. -/
theorem decode?_encode {a : Alphabet} (faithful : a.Faithful) (b : Bytes) :
    decode? a (encode a b) = some b := by
  have values : (encode a b).mapM a.value? = some (sextets b) := by
    rw [Json.mapM_eq_some_iff, encode_eq_map_letter, List.map_map]
    exact List.map_congr_left fun n member => faithful n (sextets_lt b n member)
  rw [decode?, values, Option.bind_some, join?_sextets]

/-- No letter of the alphabet for URLs is white space or an equals sign. -/
theorem plain_of_mem_encode_urlSafe {b : Bytes} {c : Char} (h : c ∈ encode urlSafe b) :
    Text.isBlank c = false ∧ c ≠ '=' := by
  have each : ∀ n : Fin 64,
      Text.isBlank (urlSafe.letter n) = false ∧ urlSafe.letter n ≠ '=' := by decide
  rw [encode_eq_map_letter] at h
  obtain ⟨n, member, rfl⟩ := List.mem_map.mp h
  exact each ⟨n, sextets_lt b n member⟩

end Base64

/-- What is encoded for URLs is decoded by the tolerant reader. -/
theorem decodeTolerant?_encodeUrlSafe (b : Bytes) :
    decodeTolerant? (encodeUrlSafe b) = some b := by
  have plain : ∀ c ∈ Base64.encode Base64.urlSafe b, Text.isBlank c = false ∧ c ≠ '=' :=
    fun _ => Base64.plain_of_mem_encode_urlSafe
  rw [decodeTolerant?, encodeUrlSafe, String.toList_ofList,
    Text.trim_eq_self fun c member => (plain c member).1,
    Text.dropEndWhile_eq_self fun c member => decide_eq_false (plain c member).2,
    Base64.decode?_encode Base64.urlSafe_faithful]

end FederationTrust
