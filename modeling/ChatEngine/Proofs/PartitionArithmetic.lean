import ChatEngine.Config.Reader
import ChatEngine.Proofs.Checksums

/-!
# Counts of partitions

What a count of partitions can be, and what partitions it gives. The check of a configuration, a new
router and the partition of a message each test a count on their own; they accept the same counts,
which are the powers of two. The mask of such a count leaves the remainder of the checksum, and the
remainder by a count is that of the remainder by its double, so twice as many partitions split each
one in two.
-/
namespace ChatEngine

/-! ### Powers of two -/

lemma toNat_two_pow (k : Nat) : (2 ^ k : Int).toNat = 2 ^ k := by
  rw [← Nat.cast_ofNat, ← Nat.cast_pow, Int.toNat_natCast]

/-- The test of bits finds the powers of two among all integers. -/
theorem isPowerOfTwo_iff (n : Int) : isPowerOfTwo n = true ↔ ∃ k : Nat, n = 2 ^ k := by
  rw [isPowerOfTwo, Bool.and_eq_true, decide_eq_true_iff, beq_iff_eq]
  constructor
  · rintro ⟨hpositive, hbits⟩
    have hnonzero : n.toNat ≠ 0 := by omega
    obtain ⟨k, hk⟩ := (Nat.and_sub_one_eq_zero_iff_isPowerOfTwo hnonzero).mp hbits
    refine ⟨k, ?_⟩
    rw [← Int.toNat_of_nonneg hpositive.le, hk, Nat.cast_pow, Nat.cast_ofNat]
  · rintro ⟨k, rfl⟩
    have hnonzero : 2 ^ k ≠ 0 := (Nat.two_pow_pos k).ne'
    rw [toNat_two_pow]
    exact ⟨by positivity, (Nat.and_sub_one_eq_zero_iff_isPowerOfTwo hnonzero).mpr ⟨k, rfl⟩⟩

/-- The double of a power of two is one. -/
lemma isPowerOfTwo_double {n : Int} (power : isPowerOfTwo n = true) :
    isPowerOfTwo (2 * n) = true := by
  obtain ⟨k, rfl⟩ := (isPowerOfTwo_iff n).mp power
  exact (isPowerOfTwo_iff _).mpr ⟨k + 1, (pow_succ' 2 k).symm⟩

namespace MessageId

lemma partition?_ok_iff (id : MessageId) (n : Int) :
    (∃ i, id.partition? n = .ok i) ↔ isPowerOfTwo n = true := by
  rw [partition?]
  split_ifs with hpower
  · exact ⟨fun _ => hpower, fun _ => ⟨_, rfl⟩⟩
  · exact ⟨nofun, fun h => absurd h hpower⟩

/-- The mask of a power of two leaves the remainder. -/
lemma partition?_of_power (id : MessageId) {n : Int} (power : isPowerOfTwo n = true) :
    id.partition? n = .ok (id.checksum % n.toNat) := by
  obtain ⟨k, rfl⟩ := (isPowerOfTwo_iff n).mp power
  rw [partition?, if_pos power, partition, toNat_two_pow, Nat.and_two_pow_sub_one_eq_mod]

end MessageId

lemma Router.create?_ok_iff {n buffer : Int} (holds : 1 ≤ buffer) :
    (∃ r, Router.create? n buffer = .ok r) ↔ isPowerOfTwo n = true := by
  rw [Router.create?]
  split_ifs with hpower hbuffer
  · exact ⟨nofun, fun h => by simp [h] at hpower⟩
  · exact absurd hbuffer (Int.not_lt.mpr holds)
  · exact ⟨fun _ => by simpa using hpower, fun _ => ⟨_, rfl⟩⟩

/-! ### The check of a configuration -/

namespace Config

/-- The check of a configuration, which asks for what is wrong with a count, accepts what the router
does. -/
lemma checkPartitionCount_eq (n : Int) :
    checkPartitionCount n =
      if isPowerOfTwo n then .ok n
      else .error (.rejected (RouterError.partitionCount n).fault.message) := by
  have hnot : (decide (n ≤ 0) || n.toNat &&& (n.toNat - 1) != 0) = !isPowerOfTwo n := by
    simp only [isPowerOfTwo, Bool.not_and, bne, ← decide_not, Int.not_lt]
  rw [checkPartitionCount, hnot]
  cases isPowerOfTwo n <;> rfl

section Put

variable {entries : List (String × Value)} {key other : String} {v : Value}

lemma requiredText_put (ne : other ≠ key) :
    requiredText (Entries.put key v entries) other = requiredText entries other := by
  rw [requiredText, requiredText, Entries.get?_put, if_neg ne]

lemma field_put {α : Type} (ne : other ≠ key) (conversion : Conversion α) (default : α) :
    field (Entries.put key v entries) other conversion default =
      field entries other conversion default := by
  rw [field, field, Entries.get?_put, if_neg ne]

lemma group_put {α : Type} (ne : other ≠ key) (name : String) (default : α)
    (read : List (String × Value) → Checked α) :
    group (Entries.put key v entries) other name default read =
      group entries other name default read := by
  rw [group, group, Entries.get?_put, if_neg ne]

lemma pluginsField_put (ne : "plugins" ≠ key) :
    pluginsField (Entries.put key v entries) = pluginsField entries := by
  rw [pluginsField, pluginsField, Entries.get?_put, if_neg ne]

lemma field_put_self {α : Type} (conversion : Conversion α) (default : α) :
    field (Entries.put key v entries) key conversion default =
      (convert conversion default v).within key := by
  rw [field, Entries.get?_put, if_pos rfl]

end Put

lemma convert_partitionCount (standIn n : Int) :
    convert partitionCount standIn (.int n) =
      if isPowerOfTwo n then ⟨n, []⟩
      else ⟨standIn, [⟨[], .rejected (RouterError.partitionCount n).fault.message⟩]⟩ := by
  have hown : partitionCount (.int n) = checkPartitionCount n := rfl
  rw [convert, hown, checkPartitionCount_eq]
  cases isPowerOfTwo n <;> rfl

/-- Another count of partitions in a configuration that can be read is taken over, or is the only
problem that there is. -/
lemma readFields_put_partitions {entries : List (String × Value)} {config : BotConfig}
    (read : readFields entries = .ok config) (n : Int) :
    readFields (Entries.put "message_partition_count" (.int n) entries) =
      if isPowerOfTwo n then .ok { config with messagePartitionCount := n }
      else .error [⟨["message_partition_count"],
        .rejected (RouterError.partitionCount n).fault.message⟩] := by
  unfold readFields at read ⊢
  simp (disch := decide) only [requiredText_put, field_put, group_put, pluginsField_put,
    field_put_self, convert_partitionCount]
  dsimp only at read
  -- without problems in the whole there are none in any field
  split_ifs at read with hempty
  cases read
  simp only [List.isEmpty_iff, List.append_eq_nil_iff] at hempty
  cases isPowerOfTwo n <;> simp [hempty, Checked.within]

/-- The key as it is written with a capital inside. -/
example : fieldKey "messagePartitionCount" = "message_partition_count" := by decide +kernel

end Config

/-! ### Partitions -/

/-- A router that was made asks for no partition in vain: its count was tested when it was made. -/
theorem Router.partitionOf_created {n buffer : Int} {r : Router}
    (created : Router.create? n buffer = .ok r) (id : MessageId) :
    r.partitionOf ⟨some id.channel, some id.timestamp⟩ = id.partition? n := by
  rw [Router.create?] at created
  split_ifs at created with hpower
  cases created
  rw [Bool.not_eq_true', Bool.not_eq_false] at hpower
  rw [MessageId.partition?, if_pos hpower]
  rfl

/-- The counts of partitions are the powers of two, for the configuration, for a router and for the
partition of a message, which is the one where a router puts it. That partition is the remainder of the one word that is the checksum of
channel and timestamp, and the remainder of the partition among twice as many. -/
theorem partitions_are_residues_of_checksums (n : Int) :
    (isPowerOfTwo n = true ↔ ∃ k : Nat, n = 2 ^ k) ∧
    ((∃ m, Config.checkPartitionCount n = .ok m) ↔ isPowerOfTwo n = true) ∧
    (∀ entries config, Config.readFields entries = .ok config →
      ((∃ c, Config.readFields (Entries.put "message_partition_count" (.int n) entries) = .ok c) ↔
        isPowerOfTwo n = true)) ∧
    (∀ buffer, 1 ≤ buffer → ((∃ r, Router.create? n buffer = .ok r) ↔ isPowerOfTwo n = true)) ∧
    (∀ buffer r, Router.create? n buffer = .ok r → ∀ id : MessageId,
      r.partitionOf ⟨some id.channel, some id.timestamp⟩ = id.partition? n) ∧
    ∀ id : MessageId,
      ((∃ i, id.partition? n = .ok i) ↔ isPowerOfTwo n = true) ∧
      (isPowerOfTwo n = true →
        ∃ crc : UInt32,
          (∀ word, Crc32.IsChecksum (id.channel ++ id.timestamp).toUTF8.toList word ↔ word = crc) ∧
          id.partition? n = .ok (crc.toNat % n.toNat) ∧ crc.toNat % n.toNat < n.toNat ∧
          ∃ i, id.partition? (2 * n) = .ok i ∧ i % n.toNat = crc.toNat % n.toNat) := by
  refine ⟨isPowerOfTwo_iff n, ?_, fun entries config read => ?_,
    fun buffer holds => Router.create?_ok_iff holds,
    fun buffer r created id => Router.partitionOf_created created id, fun id => ⟨id.partition?_ok_iff n, ?_⟩⟩
  · rw [Config.checkPartitionCount_eq]
    cases isPowerOfTwo n <;> simp
  · rw [Config.readFields_put_partitions read]
    cases isPowerOfTwo n <;> simp
  · intro power
    have hpositive : 0 < n.toNat := by
      obtain ⟨k, rfl⟩ := (isPowerOfTwo_iff n).mp power
      rw [toNat_two_pow]
      exact Nat.two_pow_pos k
    have hdouble : (2 * n).toNat = 2 * n.toNat := by omega
    refine ⟨Crc32.ofText (id.channel ++ id.timestamp), fun word => Crc32.isChecksum_iff _ word,
      id.partition?_of_power power, Nat.mod_lt _ hpositive, _,
      id.partition?_of_power (isPowerOfTwo_double power), ?_⟩
    rw [hdouble, Nat.mod_mul_left_mod, MessageId.checksum]

/-- Four partitions can be configured and made; a message of the last of them stays in the part of
it that is left when there are eight. -/
theorem four_partitions_split :
    let id : MessageId := ⟨"C1", "1.0"⟩
    Config.readFields [("token", .str "secret")] = .ok { token := "secret" } ∧
      (∃ c, Config.readFields [("token", .str "secret"), ("message_partition_count", .int 4)] =
        .ok c) ∧
      (∃ r, Router.create? 4 1 = .ok r) ∧
      Crc32.IsChecksum "C11.0".toUTF8.toList 0x9991fc67 ∧ id.partition? 4 = .ok 3 ∧
      ∃ i, id.partition? 8 = .ok i ∧ i % 4 = 3 := by
  intro id
  have read : Config.readFields [("token", .str "secret")] = .ok { token := "secret" } := rfl
  have power : isPowerOfTwo 4 = true := by decide
  obtain ⟨-, -, hread, hcreate, -, hpartition⟩ := partitions_are_residues_of_checksums 4
  obtain ⟨crc, hcrc, hfour, -, i, height, hi⟩ := (hpartition id).2 power
  have hword : crc = 0x9991fc67 :=
    ((Crc32.isChecksum_iff _ crc).mp ((hcrc crc).mpr rfl)).trans (by decide +kernel)
  subst hword
  exact ⟨read, (hread _ _ read).mpr power, (hcreate 1 le_rfl).mpr power, (hcrc _).mpr rfl, hfour, i,
    height, hi⟩

end ChatEngine
