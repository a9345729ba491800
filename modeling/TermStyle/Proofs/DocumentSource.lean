import TermStyle.Yaml.Source

/-! How a file yields its text. A short file of basic characters is one chunk and one block: its text comes out as it
was put in, and nothing is lacking. -/

namespace TermStyle.Proofs.DocumentSource
open Yaml Yaml.Source

theorem toList_data (content : ByteArray) : content.toList = content.data.toList := by
  have loop : ∀ index passed, ByteArray.toList.loop content index passed =
      passed.reverse ++ content.data.toList.drop index := by
    intro index passed
    fun_induction ByteArray.toList.loop content index passed with
    | case1 index passed inside ih =>
      have bound : index < content.data.toList.length := by simpa using inside
      have same : content.get! index = content.data.toList[index] := by
        have size : index < content.data.size := inside
        simp [ByteArray.get!, getElem!_pos content.data index size]
      rw [ih, List.drop_eq_getElem_cons bound, same]
      simp
    | case2 index passed outside =>
      rw [List.drop_of_length_le (by simpa using outside)]
      simp
  rw [ByteArray.toList, loop]
  simp

/-- A character of the basic Latin block that a document may hold, carriage returns apart. -/
structure Basic (c : Char) : Prop where
  latin : c.toNat < 0x80
  allowed : isAllowed c = true
  noReturn : c ≠ '\r'

theorem basic_of {c : Char} (facts : c.toNat < 0x80 ∧ isAllowed c = true ∧ c ≠ '\r') : Basic c := ⟨facts.1, facts.2.1, facts.2.2⟩

def byteOf (c : Char) : UInt8 := c.toNat.toUInt8

theorem byteOf_toNat {c : Char} (latin : c.toNat < 0x80) : (byteOf c).toNat = c.toNat := by
  simp only [byteOf, Nat.toUInt8_eq, UInt8.toNat_ofNat']
  omega

theorem encode_basic {text : List Char} (basic : ∀ c ∈ text, c.toNat < 0x80) :
    text.flatMap String.utf8EncodeChar = text.map byteOf := by
  induction text with
  | nil => rfl
  | cons c rest ih =>
    have latin := basic c (by simp)
    have single : c.utf8Size = 1 := by
      rw [Char.utf8Size_eq_one_iff, UInt32.le_iff_toNat_le]
      have bound : (127 : UInt32).toNat = 127 := rfl
      have same : c.toNat = c.val.toNat := rfl
      omega
    rw [List.flatMap_cons, List.map_cons, ih fun d member => basic d (by simp [member]), String.utf8EncodeChar_eq_singleton single]
    rfl

theorem toUTF8_basic {text : List Char} (basic : ∀ c ∈ text, c.toNat < 0x80) :
    (String.ofList text).toUTF8.toList = text.map byteOf := by
  rw [toList_data, String.toUTF8_eq_toByteArray, String.toByteArray_ofList, List.utf8Encode, List.toList_data_toByteArray,
    encode_basic basic]

theorem decode_basic {text : List Char} (basic : ∀ c ∈ text, c.toNat < 0x80) :
    Partial.none.decode (text.map byteOf) = some (.none, text) := by
  induction text with
  | nil => rfl
  | cons c rest ih =>
    have latin := basic c (by simp)
    have step : Partial.none.step (byteOf c).toNat = some (.none, some c) := by
      simp [Partial.step, Partial.none, byteOf_toNat latin, latin]
    rw [List.map_cons, Partial.decode, step]
    simp [ih fun d member => basic d (by simp [member])]

theorem withLineFeeds_basic {text : List Char} (basic : ∀ c ∈ text, c ≠ '\r') : withLineFeeds text = text := by
  induction text with
  | nil => rfl
  | cons c rest ih =>
    have other : c ≠ '\r' := basic c (by simp)
    have later := ih fun d member => basic d (by simp [member])
    unfold withLineFeeds
    split
    · simp_all
    · simp_all
    next same =>
      cases same
      rw [later]
    next same => cases same

/-- A file behind its last byte, with some of its characters still waiting. -/
def ended (ready : List Char) (last : Nat × Nat) : Stream := ⟨[], .none, false, ready, last⟩

theorem fill_ended {ready : List Char} (short : ready.length < Stream.blockSize) (last : Nat × Nat) (fuel : Nat) :
    Stream.fill (fuel + 1) (ended ready last) = .ok (ended ready (0, 0)) := by
  have unfilled : ¬ Stream.blockSize ≤ ready.length := Nat.not_le.mpr short
  simp [Stream.fill, ended, unfilled, Stream.take, Partial.decode, Partial.none, withLineFeeds, pure, Except.pure, bind, Except.bind]

theorem block_ended {ready : List Char} (short : ready.length < Stream.blockSize) (last : Nat × Nat) :
    (ended ready last).block = .ok (ready, ended [] (0, 0)) := by
  have filled : Stream.fill (([] : List UInt8).length + 1) (ended ready last) = .ok (ended ready (0, 0)) := fill_ended short last 0
  have all : ready.take Stream.blockSize = ready := List.take_of_length_le (Nat.le_of_lt short)
  have none : ready.drop Stream.blockSize = [] := List.drop_of_length_le (Nat.le_of_lt short)
  have unread : (ended ready last).bytes = [] := rfl
  rw [Stream.block, unread, filled]
  simp only [bind, Except.bind, pure, Except.pure, ended, all, none]

theorem take_basic {text : List Char} (filled : text ≠ []) (basic : ∀ c ∈ text, Basic c) :
    Stream.take ⟨text.map byteOf, .none, false, [], (0, 0)⟩ (text.map byteOf) = .ok (ended text (text.length, text.length)) := by
  have decoded := decode_basic fun c member => (basic c member).latin
  have feeds := withLineFeeds_basic fun c member => (basic c member).noReturn
  have lastly : text.getLast? ≠ some '\r' := fun last => (basic _ (List.mem_of_getLast? last)).noReturn rfl
  have settled : Partial.none.owed = 0 := rfl
  simp only [Stream.take, decoded]
  simp [lastly, feeds, filled, settled, ended]

theorem block_basic {text : List Char} (filled : text ≠ []) (basic : ∀ c ∈ text, Basic c)
    (short : text.length < Stream.blockSize) :
    Stream.block ⟨text.map byteOf, .none, false, [], (0, 0)⟩ = .ok (text, ended [] (0, 0)) := by
  obtain ⟨c, rest, rfl⟩ := List.exists_cons_of_ne_nil filled
  have whole : ((c :: rest).map byteOf).take Stream.chunkSize = (c :: rest).map byteOf := by
    apply List.take_of_length_le
    rw [List.length_map]
    exact Nat.le_of_lt (Nat.lt_trans short (by decide))
  have first : Stream.fill ((c :: rest).length + 1) ⟨(c :: rest).map byteOf, .none, false, [], (0, 0)⟩ =
      Stream.fill (rest.length + 1) (ended (c :: rest) ((c :: rest).length, (c :: rest).length)) := by
    have chunk : Stream.chunk ⟨(c :: rest).map byteOf, .none, false, [], (0, 0)⟩ (Stream.blockSize - 0) = Stream.chunkSize := by
      simp [Stream.chunk, Stream.chunkSize]
    rw [Stream.fill]
    simp only [List.length_nil, chunk, whole, take_basic filled basic]
    rfl
  have filledBlock : Stream.fill ((c :: rest).length + 1) ⟨(c :: rest).map byteOf, .none, false, [], (0, 0)⟩ =
      .ok (ended (c :: rest) (0, 0)) := first.trans (fill_ended short _ _)
  have all : (c :: rest).take Stream.blockSize = c :: rest := List.take_of_length_le (Nat.le_of_lt short)
  have none : (c :: rest).drop Stream.blockSize = [] := List.drop_of_length_le (Nat.le_of_lt short)
  rw [Stream.block]
  simp only [List.length_map, filledBlock, bind, Except.bind, pure, Except.pure, ended, all, none]

/-- A short file of basic characters is read as it was written. -/
theorem ofBytes_basic {text : List Char} (filled : text ≠ []) (basic : ∀ c ∈ text, Basic c)
    (short : text.length < Stream.blockSize) : ofBytes (String.ofList text).toUTF8 = ofText text := by
  have start : Stream.start (String.ofList text).toUTF8 = ⟨text.map byteOf, .none, false, [], (0, 0)⟩ := by
    rw [Stream.start, toUTF8_basic fun c member => (basic c member).latin]
  have rest : (ended [] (0, 0)).block = .ok ([], ended [] (0, 0)) := block_ended (by decide) _
  have blocks : ∀ fuel, Stream.blocks (fuel + 1) (ended [] (0, 0)) = ofText [] := by
    intro fuel
    rw [Stream.blocks, rest]
  have allowed : text.all isAllowed = true := List.all_eq_true.mpr fun c member => (basic c member).allowed
  rw [ofBytes, start]
  simp only [block_basic filled basic short, rest, bind, Except.bind, pure, Except.pure, List.append_nil, allowed, if_true, blocks]
  simp [after, ofText]

end TermStyle.Proofs.DocumentSource
