import KafkaCanary.Proofs.Results
import KafkaCanary.Protocol.ResponseReader
import Mathlib

/-!
# What readers use up

A reader that succeeds leaves at most the bytes that it was given, and fewer if it has read a field
of fixed width. So a message can only list as many things as it has bytes, whatever the lengths in
it announce (`Spends`).

## Main results

* `Spends.bind`: one reader after another;
* `spends_readItems`: items spend what each of them spends;
* `MetadataResponse.length_partitions_le`: a topic has at most as many partitions as there are bytes
  in the message that lists it.
-/

namespace KafkaCanary

namespace Wire

/-- A reader that uses up as many bytes as the size of what it reads, or more. -/
def Spends {α : Type} (reader : Reader α) (size : α → Nat) : Prop :=
  ∀ bytes a rest, reader bytes = .ok (a, rest) → size a + rest.length ≤ bytes.length

section Spends

variable {α β : Type} {reader : Reader α} {next : α → Reader β} {size : α → Nat} {size' : β → Nat}

/-- A reader that reads nothing spends nothing. -/
theorem spends_pure {a : α} (h : size a = 0) : Spends (pure a) size := by
  rintro bytes _ _ ⟨⟩
  exact Nat.le_of_eq (by rw [h, Nat.zero_add])

/-- A reader that fails spends whatever is asked of it. -/
theorem spends_throw (fault : DecodeFault) (size : α → Nat) : Spends (throw fault) size :=
  nofun

/-- A reader that spends so much spends anything less. -/
theorem Spends.mono {size' : α → Nat} (h : Spends reader size) (hle : ∀ a, size' a ≤ size a) :
    Spends reader size' := fun bytes a rest hread =>
  Nat.le_trans (Nat.add_le_add_right (hle a) _) (h bytes a rest hread)

/-- A reader after another one has to use up only what that one has not. -/
theorem Spends.bind (h : Spends reader size)
    (hnext : ∀ a, Spends (next a) fun b => size' b - size a) : Spends (reader >>= next) size' := by
  intro bytes b rest hread
  replace hread : (reader bytes >>= fun p => next p.1 p.2) = .ok (b, rest) := hread
  obtain ⟨⟨a, rest'⟩, hreader, hafter⟩ := bind_eq_ok_iff.1 hread
  have hfirst := h bytes a rest' hreader
  have hsecond := hnext a rest' b rest hafter
  dsimp only at hsecond
  omega

/-- A reader after a field that does not count. -/
theorem Spends.skip (h : Spends reader size) (hnext : ∀ a, Spends (next a) size') :
    Spends (reader >>= next) size' :=
  (h.mono fun _ => Nat.zero_le _).bind hnext

/-- What is done with the result does not change a fixed spending. -/
theorem Spends.map (f : α → β) {n : Nat} (h : Spends reader fun _ => n) :
    Spends (f <$> reader) fun _ => n := by
  intro bytes b rest hread
  replace hread : (reader bytes >>= fun p => pure (f p.1, p.2)) = .ok (b, rest) := hread
  obtain ⟨⟨a, rest'⟩, hreader, ⟨⟩⟩ := bind_eq_ok_iff.1 hread
  exact h bytes a rest' hreader

/-- A choice spends what both its branches spend. -/
theorem Spends.ite {p : Prop} [Decidable p] {reader' : Reader α} (h : p → Spends reader size)
    (h' : ¬p → Spends reader' size) : Spends (if p then reader else reader') size := by
  by_cases hp : p
  · rw [if_pos hp]
    exact h hp
  · rw [if_neg hp]
    exact h' hp

end Spends

/-! ## Fields -/

/-- A number spends its width. -/
theorem spends_readNat (width : Nat) : Spends (readNat width) fun _ => width := by
  intro bytes n rest hread
  unfold readNat at hread
  by_cases h : width ≤ bytes.length
  · rw [if_pos h] at hread
    cases hread
    rw [List.length_drop]
    exact Nat.le_of_eq (Nat.add_sub_of_le h)
  · rw [if_neg h] at hread
    cases hread

/-- A short integer spends two bytes. -/
theorem spends_readInt16 : Spends readInt16 fun _ => 2 :=
  (spends_readNat 2).map _

/-- An integer spends four bytes. -/
theorem spends_readInt32 : Spends readInt32 fun _ => 4 :=
  (spends_readNat 4).map _

/-- A flag spends a byte. -/
theorem spends_readBool : Spends readBool fun _ => 1 :=
  (spends_readNat 1).map _

/-- Reading groups of a number leaves no more bytes than there were. -/
theorem spends_readGroups (groups : Nat) : Spends (readGroups groups) fun _ => 0 := by
  induction groups with
  | zero => exact spends_pure rfl
  | succ groups ih =>
    refine (spends_readNat 1).skip fun b => .ite (fun _ => spends_pure rfl) fun _ => ?_
    exact ih.skip fun _ => spends_pure rfl

/-- So does reading a number in groups. -/
theorem spends_readVarint : Spends readVarint fun _ => 0 :=
  (spends_readGroups 5).map _

/-- So does reading bytes, of which there may be none. -/
theorem spends_readContent (n : Nat) : Spends (readContent n) fun _ => 0 := by
  intro bytes content rest hread
  unfold readContent at hread
  by_cases h : n ≤ bytes.length
  · rw [if_pos h] at hread
    cases hread
    rw [List.length_drop, Nat.zero_add]
    exact Nat.sub_le _ _
  · rw [if_neg h] at hread
    cases hread

/-- So does reading a text, which may be empty. -/
theorem spends_readUtf8 (n : Nat) : Spends (readUtf8 n) fun _ => 0 := by
  refine (spends_readContent n).skip fun bytes => ?_
  cases Utf8.decode bytes with
  | ok s => exact spends_pure rfl
  | error fault => exact spends_throw _ _

/-- So does reading a length, in either form. -/
theorem spends_readLength (compact : Bool) (kind : Lengthy) :
    Spends (readLength compact kind) fun _ => 0 := by
  refine .ite (fun _ => spends_readVarint.skip fun n => ?_) fun _ => ?_
  · cases n <;> exact spends_pure rfl
  have hcheck : ∀ length : Int, Spends
      (if length = -1 then pure none
        else if length < 0 then throw (.negativeLength kind length)
        else pure (some length.toNat) : Reader (Option Nat)) fun _ => 0 := fun length =>
    .ite (fun _ => spends_pure rfl) fun _ =>
      .ite (fun _ => spends_throw _ _) fun _ => spends_pure rfl
  cases kind with
  | text => exact (spends_readInt16.map _).skip hcheck
  | list => exact (spends_readInt32.map _).skip hcheck

/-- So does reading a length that must be there. -/
theorem spends_readPresentLength (compact : Bool) (kind : Lengthy) :
    Spends (readPresentLength compact kind) fun _ => 0 := by
  refine (spends_readLength compact kind).skip fun length => ?_
  cases length with
  | none => exact spends_throw _ _
  | some n => exact spends_pure rfl

/-- A text with its length leaves no more bytes than there were. -/
theorem spends_readTextField (compact : Bool) : Spends (readTextField compact) fun _ => 0 :=
  (spends_readPresentLength compact .text).skip spends_readUtf8

/-- Nor does a text that may be absent. -/
theorem spends_readOptionalTextField (compact : Bool) :
    Spends (readOptionalTextField compact) fun _ => 0 := by
  refine (spends_readLength compact .text).skip fun length => ?_
  cases length with
  | none => exact spends_pure rfl
  | some n => exact (spends_readUtf8 n).skip fun _ => spends_pure rfl

/-- Items use up what each of them uses up. -/
theorem spends_readItems {α : Type} {item : Reader α} {size : α → Nat} (h : Spends item size)
    (n : Nat) : Spends (readItems item n) fun as => (as.map size).sum := by
  induction n with
  | zero => exact spends_pure rfl
  | succ n ih =>
    refine h.bind fun first => ih.bind fun rest => spends_pure ?_
    rw [List.map_cons, List.sum_cons]
    omega

/-- A list spends at least what its items spend together. -/
theorem spends_readListField {α : Type} {item : Reader α} {size : α → Nat} (h : Spends item size)
    (compact : Bool) : Spends (readListField compact item) fun as => (as.map size).sum :=
  (spends_readPresentLength compact .list).skip (spends_readItems h)

/-- A field that only some versions have leaves no more bytes than there were. -/
theorem spends_readIf {α : Type} {reader : Reader α} {absent : α} (present : Bool)
    (h : Spends reader fun _ => 0) : Spends (readIf present absent reader) fun _ => 0 :=
  .ite (fun _ => h) fun _ => spends_pure rfl

/-- Nor do tags, which are skipped. -/
theorem spends_readTags_noTags (n : Nat) : Spends (readTags noTags n) fun _ => 0 := by
  induction n with
  | zero => exact spends_pure rfl
  | succ n ih =>
    refine spends_readVarint.skip fun tag => spends_readVarint.skip fun length => ?_
    show Spends (discard (readContent length) >>= fun _ => readTags noTags n) _
    exact ((spends_readContent length).map _).skip fun _ => ih

/-- Nor do the tags at the end of a structure, in either form. -/
theorem spends_readTagsField_noTags (compact : Bool) :
    Spends (readTagsField compact noTags) fun _ => 0 :=
  .ite (fun _ => spends_readVarint.skip spends_readTags_noTags) fun _ => spends_pure rfl

end Wire

open Wire

/-! ## Metadata -/

/-- A broker's entry leaves no more bytes than there were, in any version. -/
theorem BrokerListing.spends_read (version : Int16) :
    Spends (BrokerListing.read version) fun _ => 0 := by
  refine spends_readInt32.skip fun _ => (spends_readTextField _).skip fun _ => ?_
  refine spends_readInt32.skip fun _ => ?_
  refine (spends_readIf _ (spends_readOptionalTextField _)).skip fun _ => ?_
  exact (spends_readTagsField_noTags _).skip fun _ => spends_pure rfl

/-- A partition uses up at least its error code. -/
theorem PartitionListing.spends_read (version : Int16) :
    Spends (PartitionListing.read version) fun _ => 1 := by
  have hnodes (compact : Bool) : Spends (readListField compact readInt32) fun _ => 0 :=
    (spends_readListField spends_readInt32 compact).mono fun _ => Nat.zero_le _
  -- The error code alone has the byte to account for, so that no other field has to count.
  refine spends_readInt16.bind fun _ => ?_
  refine spends_readInt32.skip fun _ => spends_readInt32.skip fun _ => ?_
  refine (spends_readIf _ (spends_readInt32.mono fun _ => Nat.zero_le _)).skip fun _ => ?_
  refine (hnodes _).skip fun _ => (hnodes _).skip fun _ => ?_
  refine (spends_readIf _ (hnodes _)).skip fun _ => ?_
  exact (spends_readTagsField_noTags _).skip fun _ => spends_pure rfl

/-- A topic uses up at least a byte for every partition. -/
theorem TopicListing.spends_read (version : Int16) :
    Spends (TopicListing.read version) fun topic => topic.partitions.length := by
  have hint : Spends readInt32 fun _ => 0 := spends_readInt32.mono fun _ => Nat.zero_le _
  refine spends_readInt16.skip fun _ => (spends_readOptionalTextField _).skip fun _ => ?_
  refine (spends_readIf _ ((spends_readNat 16).mono fun _ => Nat.zero_le _)).skip fun _ => ?_
  refine (spends_readIf _ (spends_readBool.mono fun _ => Nat.zero_le _)).skip fun _ => ?_
  refine (spends_readListField (PartitionListing.spends_read version) _).bind fun partitions => ?_
  refine (spends_readIf _ hint).skip fun _ => (spends_readTagsField_noTags _).skip fun _ => ?_
  refine spends_pure ?_
  simp [List.map_const']

/-- So does a response. -/
theorem MetadataResponse.spends_read (version : Int16) :
    Spends (MetadataResponse.read version) fun response =>
      (response.topics.map fun topic => topic.partitions.length).sum := by
  have hint : Spends readInt32 fun _ => 0 := spends_readInt32.mono fun _ => Nat.zero_le _
  refine (spends_readIf _ hint).skip fun _ => ?_
  refine (spends_readListField (BrokerListing.spends_read version) _).skip fun _ => ?_
  refine (spends_readIf _ (spends_readOptionalTextField _)).skip fun _ => ?_
  refine (spends_readIf _ hint).skip fun _ => ?_
  refine (spends_readListField (TopicListing.spends_read version) _).bind fun topics => ?_
  refine (spends_readIf _ hint).skip fun _ => (spends_readTagsField_noTags _).skip fun _ => ?_
  exact spends_pure (Nat.sub_self _)

/-- The header of a response leaves no more than the response. -/
theorem spends_readResponseHeader (api : ApiKey) (version : Int16) :
    Spends (readResponseHeader api version) fun _ => 0 :=
  spends_readInt32.skip fun _ => (spends_readTagsField_noTags _).skip fun _ => spends_pure rfl

/-- A topic has at most as many partitions as there are bytes in the message that lists it. -/
theorem MetadataResponse.length_partitions_le {version : Int16} {bytes rest : List UInt8}
    {response : MetadataResponse}
    (h : (MetadataResponse.read version).run bytes = .ok (response, rest)) {topic : TopicListing}
    (htopic : topic ∈ response.topics) : topic.partitions.length ≤ bytes.length := by
  have hall := spends_read version bytes response rest h
  have hone : topic.partitions.length ≤
      (response.topics.map fun topic => topic.partitions.length).sum :=
    List.le_sum_of_mem (List.mem_map_of_mem htopic)
  dsimp only at hall
  omega

end KafkaCanary
