import Phrasebook.Grpc.Service
/-!
# Messages are read back

What `Wire` writes it reads back. Each reader is followed from the bytes that the writer puts out to the bytes
after them, which are left over untouched; so the lemmas have the rest of the input as a variable, and a
message is read field by field.

The readers of whole messages run on fuel, one unit for each field. It is never short, since a field has more
than one byte (`readMessage_delimited`). Lengths are read from at most nine bytes here, so the messages must
be shorter than `lengthBound`; a frame could not hold a longer one anyway.

The lead results are those for the three messages: `readQuery_queryMessage`, `readHistory_historyMessage` and
`readRendered_renderedMessage`.
-/

set_option autoImplicit false

namespace Phrasebook.Grpc

namespace Wire

/-! ## Numbers -/

/-- The bound of the numbers that nine bytes can hold. -/
def lengthBound : Nat := Nat.pow 128 9

/-- A number below 256 is the byte that it makes. -/
theorem toNat_toUInt8 {n : Nat} (h : n < 256) : n.toUInt8.toNat = n := by
  rw [Nat.toUInt8, UInt8.toNat_ofNat', Nat.mod_eq_of_lt h]

/-- Every number takes at least one byte. -/
theorem varint_ne_nil (n : Nat) : varint n ≠ [] := by
  rw [varint]
  split <;> exact List.cons_ne_nil _ _

/-- The last group of a number: its byte has no top bit. -/
theorem go_last (left scale n m : Nat) (rest : Bytes) (h : m < 128) :
    readVarint.go (left + 2) scale n (m.toUInt8 :: rest) = .ok (n + m * scale, rest) := by
  have hsmall : m.toUInt8 < 0x80 := by
    rw [UInt8.lt_iff_toNat_lt, toNat_toUInt8 (by omega)]
    exact h
  simp only [readVarint.go, hsmall, if_true, toNat_toUInt8 (by omega : m < 256)]
  rfl

/-- A group that is not the last. -/
theorem go_more (left scale n m : Nat) (rest : Bytes) (h : m < 128) :
    readVarint.go (left + 1) scale n ((m + 128).toUInt8 :: rest) =
      readVarint.go left (scale * 128) (n + m * scale) rest := by
  have hlarge : ¬ (m + 128).toUInt8 < 0x80 := by
    rw [UInt8.lt_iff_toNat_lt, toNat_toUInt8 (by omega)]
    exact Nat.not_lt.2 (Nat.le_add_left 128 m)
  rw [readVarint.go, if_neg hlarge, toNat_toUInt8 (by omega), Nat.add_sub_cancel]

/-- A number is read group by group: `scale` is what the next group counts for, `n` what has been read. -/
theorem go_varint (left scale n m : Nat) (rest : Bytes) (h : m < Nat.pow 128 (left + 1)) :
    readVarint.go (left + 2) scale n (varint m ++ rest) = .ok (n + m * scale, rest) := by
  induction left generalizing scale n m with
  | zero =>
    rw [varint, if_pos (by exact h)]
    exact go_last _ _ _ _ _ h
  | succ left ih =>
    rw [varint]
    split
    · rename_i hlast
      exact go_last _ _ _ _ _ hlast
    · have hless : m / 128 < Nat.pow 128 (left + 1) := by
        have hpow : Nat.pow 128 (left + 1 + 1) = Nat.pow 128 (left + 1) * 128 := rfl
        rw [hpow] at h
        exact (Nat.div_lt_iff_lt_mul (by decide)).2 h
      have hsplit : n + m % 128 * scale + m / 128 * (scale * 128) = n + m * scale := by
        have hm : m % 128 * scale + m / 128 * (scale * 128) = m * scale := by
          rw [Nat.mul_comm scale, ← Nat.mul_assoc, ← Nat.add_mul, Nat.mul_comm (m / 128), Nat.mod_add_div]
        rw [Nat.add_assoc, hm]
      rw [List.cons_append, go_more _ _ _ _ _ (Nat.mod_lt _ (by decide)), ih _ _ _ hless, hsplit]

/-- **A number is read back.** -/
theorem readVarint_varint {n : Nat} (h : n < lengthBound) (rest : Bytes) :
    readVarint (varint n ++ rest) = .ok (n, rest) := by
  rw [readVarint, go_varint 8 1 0 n rest h, Nat.zero_add, Nat.mul_one]

/-! ## Fields -/

/-- The greatest number of a field, as far as these messages go. -/
def lastNumber : Nat := 15

/-- The key of a field is read back. -/
theorem readKey_key {number : Nat} (hpos : 0 < number) (hlast : number ≤ lastNumber) (rest : Bytes) :
    readKey (key number ++ rest) = .ok ((number, .lengthDelimited), rest) := by
  have hlt : number * 8 + 2 < 128 := by
    have : number ≤ 15 := hlast
    omega
  have hbound : number * 8 + 2 < lengthBound := Nat.lt_trans hlt (by decide)
  have hkey : ¬ number * 8 + 2 ≥ Nat.pow 2 32 := by
    have : (128 : Nat) ≤ Nat.pow 2 32 := by decide
    omega
  have hform : Form.ofNat? ((number * 8 + 2) % 8) = some .lengthDelimited := by
    rw [show (number * 8 + 2) % 8 = 2 by omega]
    rfl
  have hnumber : (number * 8 + 2) / 8 = number := by omega
  have hne : (number == 0) = false := beq_false_of_ne (by omega)
  rw [readKey, key, readVarint_varint hbound]
  simp only [bind, Except.bind, hkey, if_false, hform, hnumber, hne, Bool.false_eq_true]

/-- A value with its length before it is read back, up to what comes after it. -/
theorem readDelimited_value {value : Bytes} (h : value.length < lengthBound) (rest : Bytes) :
    readDelimited .lengthDelimited (varint value.length ++ value ++ rest) = .ok (value, rest) := by
  have hfits : ¬ value.length > (value ++ rest).length := by
    rw [List.length_append]
    omega
  rw [readDelimited, List.append_assoc, readVarint_varint h]
  simp only [bne_self_eq_false, Bool.false_eq_true, bind, Except.bind, if_false, hfits, List.take_left,
    List.drop_left]

/-- **A text is read back.** -/
theorem readText_encode {s : String} (h : (Text.encode s).length < lengthBound) (rest : Bytes) :
    readText .lengthDelimited (varint (Text.encode s).length ++ Text.encode s ++ rest) = .ok (s, rest) := by
  rw [readText, readDelimited_value h]
  simp only [bind, Except.bind, Text.decode?_encode]

/-- A field is longer than its value by at least its key and its length. -/
theorem length_delimited (number : Nat) (value : Bytes) :
    value.length + 1 < (delimited number value).length := by
  have hkey : 0 < (key number).length := List.length_pos_iff.2 (varint_ne_nil _)
  have hlength : 0 < (varint value.length).length := List.length_pos_iff.2 (varint_ne_nil _)
  rw [delimited, List.length_append, List.length_append]
  omega

/-! ## Messages -/

section Message

variable {α : Type} {item : α → Nat → Form → Bytes → Except Fault (Option (α × Bytes))}

/-- **One field of a message**, which the reader knows. -/
theorem readMessage_delimited {number : Nat} (hpos : 0 < number) (hlast : number ≤ lastNumber)
    {value rest : Bytes} {acc acc' : α} {fuel : Nat} (hfuel : (delimited number value ++ rest).length ≤ fuel)
    (hitem : item acc number .lengthDelimited (varint value.length ++ value ++ rest) = .ok (some (acc', rest))) :
    ∃ fuel' < fuel, rest.length ≤ fuel' ∧
      readMessage item fuel acc (delimited number value ++ rest) = readMessage item fuel' acc' rest := by
  have hlength := length_delimited number value
  rw [List.length_append] at hfuel
  obtain ⟨fuel', rfl⟩ : ∃ f, fuel = f + 1 := ⟨fuel - 1, by omega⟩
  refine ⟨fuel', Nat.lt_succ_self _, by omega, ?_⟩
  have hread := readKey_key hpos hlast (varint value.length ++ value ++ rest)
  have hbytes : delimited number value ++ rest = key number ++ (varint value.length ++ value ++ rest) := by
    simp only [delimited, List.append_assoc]
  rw [hbytes]
  obtain ⟨b, bs, hb⟩ : ∃ b bs, key number ++ (varint value.length ++ value ++ rest) = b :: bs :=
    List.exists_cons_of_ne_nil fun h => varint_ne_nil _ (List.append_eq_nil_iff.1 h).1
  rw [hb] at hread ⊢
  rw [readMessage, hread]
  simp only [bind, Except.bind, hitem]

end Message

/-- How a field of a message of text fields is read. -/
def textItem (message : String) (fields : List String) (acc : List String) (number : Nat) (form : Form)
    (rest : Bytes) : Except Fault (Option (List String × Bytes)) :=
  match fields[number - 1]? with
  | none => .ok none
  | some field =>
    match readText form rest with
    | .ok (s, rest) => .ok (some (acc.set (number - 1) s, rest))
    | .error f => .error { f with field := some (message, field) }

/-- A message of texts is read field by field, from empty texts on. -/
theorem readTexts_eq (message : String) (fields : List String) (b : Bytes) :
    readTexts message fields b =
      readMessage (textItem message fields) b.length (fields.map fun _ => "") b := rfl

/-- The next of the text fields is read into its place. -/
theorem textItem_encode {message : String} {fields read left : List String} {s : String}
    (hindex : read.length < fields.length) (htext : (Text.encode s).length < lengthBound) (rest : Bytes) :
    textItem message fields (read ++ "" :: left) (read.length + 1) .lengthDelimited
      (varint (Text.encode s).length ++ Text.encode s ++ rest) = .ok (some (read ++ s :: left, rest)) := by
  simp only [textItem, Nat.add_sub_cancel, List.getElem?_eq_getElem hindex, readText_encode htext,
    List.set_append_right _ _ (Nat.le_refl read.length), Nat.sub_self, List.set_cons_zero]

/-- The fields are read one after the other: those in `read` have been, and the others are still empty. -/
theorem readMessage_textFields {message : String} {fields : List String} (hcount : fields.length ≤ lastNumber)
    (read left : List String) (hall : (read ++ left).length = fields.length) (fuel : Nat)
    (hfuel : (textFields (read.length + 1) left).length ≤ fuel) (hbound : fuel < lengthBound) :
    readMessage (textItem message fields) fuel (read ++ left.map fun _ => "")
      (textFields (read.length + 1) left) = .ok (read ++ left) := by
  induction left generalizing read fuel with
  | nil =>
    rw [textFields, readMessage]
    rfl
  | cons s left ih =>
    have hshift : ∀ l : List String, read ++ s :: l = read ++ [s] ++ l := by
      intro l
      rw [List.append_assoc, List.singleton_append]
    have hih := ih (read ++ [s]) (by rw [← hshift]; exact hall)
    rw [List.length_append, List.length_singleton] at hih
    have hindex : read.length < fields.length := by
      rw [← hall, List.length_append, List.length_cons]
      omega
    rw [List.map_cons]
    rw [textFields] at hfuel ⊢
    by_cases hs : s.isEmpty = true
    · -- an empty text is not written, and not missed
      obtain rfl : s = "" := String.isEmpty_iff.1 hs
      rw [textField, if_pos hs, List.nil_append] at hfuel ⊢
      rw [hshift left, hshift (left.map fun _ => "")]
      exact hih fuel hfuel hbound
    · rw [textField, if_neg hs] at hfuel ⊢
      have htext : (Text.encode s).length < lengthBound := by
        have hlength := length_delimited (read.length + 1) (Text.encode s)
        rw [List.length_append] at hfuel
        omega
      obtain ⟨fuel', hless, hfuel', hread⟩ := readMessage_delimited (Nat.succ_pos read.length)
        (Nat.le_trans hindex hcount) hfuel (textItem_encode hindex htext _)
      rw [hread, hshift left, hshift (left.map fun _ => "")]
      exact hih fuel' hfuel' (Nat.lt_trans hless hbound)

/-- **A message of text fields is read back.** -/
theorem readTexts_textFields (message : String) (fields values : List String)
    (hcount : fields.length ≤ lastNumber) (hall : values.length = fields.length)
    (hbound : (textFields 1 values).length < lengthBound) :
    readTexts message fields (textFields 1 values) = .ok values := by
  have hempty : (fields.map fun _ => "") = values.map fun _ => "" := by
    rw [List.map_const', List.map_const', hall]
  rw [readTexts_eq, hempty]
  exact readMessage_textFields hcount [] values hall _ (Nat.le_refl _) hbound

/-! ## Nested messages -/

/-- How a field of a message with a nested message is read. -/
def nestedItem (message field : String) (acc : List Bytes) (number : Nat) (form : Form) (rest : Bytes) :
    Except Fault (Option (List Bytes × Bytes)) :=
  if number != 1 then .ok none
  else
    match readDelimited form rest with
    | .ok (v, rest) => .ok (some (acc ++ [v], rest))
    | .error f => .error { f with field := some (message, field) }

/-- A message with nested messages is read field by field. -/
theorem readNested_eq (message field : String) (b : Bytes) :
    readNested message field b = readMessage (nestedItem message field) b.length [] b := rfl

/-- The nested messages are read in their order. -/
theorem readMessage_nested (message field : String) (acc values : List Bytes) (fuel : Nat)
    (hfuel : (values.flatMap (delimited 1)).length ≤ fuel) (hbound : fuel < lengthBound) :
    readMessage (nestedItem message field) fuel acc (values.flatMap (delimited 1)) = .ok (acc ++ values) := by
  induction values generalizing acc fuel with
  | nil =>
    rw [List.flatMap_nil, readMessage, List.append_nil]
  | cons v values ih =>
    rw [List.flatMap_cons] at hfuel ⊢
    have hvalue : v.length < lengthBound := by
      have hlength := length_delimited 1 v
      rw [List.length_append] at hfuel
      omega
    have hitem : ∀ rest, nestedItem message field acc 1 .lengthDelimited (varint v.length ++ v ++ rest) =
        .ok (some (acc ++ [v], rest)) := by
      intro rest
      simp only [nestedItem, bne_self_eq_false, Bool.false_eq_true, if_false, readDelimited_value hvalue]
    obtain ⟨fuel', hless, hfuel', hread⟩ := readMessage_delimited Nat.one_pos (by decide) hfuel (hitem _)
    rw [hread, ih _ fuel' hfuel' (Nat.lt_trans hless hbound), List.append_assoc, List.singleton_append]

/-- **Nested messages are read back**, each as the bytes that it has. -/
theorem readNested_delimited (message field : String) {values : List Bytes}
    (hbound : (values.flatMap (delimited 1)).length < lengthBound) :
    readNested message field (values.flatMap (delimited 1)) = .ok values := by
  rw [readNested_eq]
  exact readMessage_nested message field [] values _ (Nat.le_refl _) hbound

end Wire

open Wire (lengthBound)

/-! ## The messages of the service -/

/-- A phrase is read back from its message. -/
theorem readPhrase_phraseMessage {p : Phrase} (h : (phraseMessage p).length < lengthBound) :
    readPhrase (phraseMessage p) = .ok p := by
  have hread := Wire.readTexts_textFields "TranslationRecord" ["source", "destination", "original", "translation"]
    p.fields (by decide) rfl h
  exact congrArg (Except.map Phrase.ofFields) hread

/-- **A query is read back**, with its three fields. -/
theorem readQuery_queryMessage {q : Query} (h : (queryMessage q).length < lengthBound) :
    readQuery (queryMessage q) = .ok q := by
  have hread := Wire.readTexts_textFields "TranslateRequest" ["source", "destination", "original"]
    q.fields (by decide) rfl h
  exact congrArg (Except.map Query.ofFields) hread

/-- The request for a page is read back from its message, which is empty. -/
theorem readHistoryRequest_historyRequest : readHistoryRequest historyRequest = .ok () := rfl

/-- A phrase takes less than the message in which it is sent as a rendering. -/
theorem length_phraseMessage_lt (p : Phrase) : (phraseMessage p).length < (renderedMessage p).length := by
  have := Wire.length_delimited 1 (phraseMessage p)
  rw [renderedMessage]
  omega

/-- **The answer to a query is read back.** -/
theorem readRendered_renderedMessage {p : Phrase} (h : (renderedMessage p).length < lengthBound) :
    readRendered (renderedMessage p) = .ok p := by
  have hnested : Wire.readNested "TranslateResponse" "translation" (renderedMessage p) = .ok [phraseMessage p] := by
    have hone : renderedMessage p = [phraseMessage p].flatMap (Wire.delimited 1) := by
      rw [List.flatMap_singleton, renderedMessage]
    rw [hone] at h ⊢
    exact Wire.readNested_delimited _ _ h
  have hphrase := readPhrase_phraseMessage (Nat.lt_trans (length_phraseMessage_lt p) h)
  rw [readRendered, hnested]
  simp only [bind, Except.bind, List.flatten_cons, List.flatten_nil, List.append_nil, hphrase]

/-- **A list of phrases is read back**, with the same phrases in the same order. -/
theorem readHistory_historyMessage {phrases : List Phrase}
    (h : (historyMessage phrases).length < lengthBound) : readHistory (historyMessage phrases) = .ok phrases := by
  have hflat : historyMessage phrases = (phrases.map phraseMessage).flatMap (Wire.delimited 1) := by
    rw [List.flatMap_map]
    rfl
  have hnested : Wire.readNested "GetHistoryResponse" "history" (historyMessage phrases) =
      .ok (phrases.map phraseMessage) := by
    rw [hflat] at h ⊢
    exact Wire.readNested_delimited _ _ h
  have hread : ∀ l : List Phrase, (historyMessage l).length < lengthBound →
      (l.map phraseMessage).mapM readPhrase = .ok l := by
    intro l hl
    induction l with
    | nil => rfl
    | cons p l ih =>
      have hsplit : historyMessage (p :: l) = renderedMessage p ++ historyMessage l := List.flatMap_cons
      have hphrase := length_phraseMessage_lt p
      rw [hsplit, List.length_append] at hl
      rw [List.map_cons, List.mapM_cons, readPhrase_phraseMessage (by omega), ih (by omega)]
      rfl
  rw [readHistory, hnested]
  exact hread phrases h

end Phrasebook.Grpc
