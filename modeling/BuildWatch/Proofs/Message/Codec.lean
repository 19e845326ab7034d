import BuildWatch.Proofs.Json.Depth
import BuildWatch.Proofs.Message.RoundTrip

/-!
# Which messages their texts keep

The text of a message is read back as the same message unless an empty trace
identifier is lost or the message is nested too deeply to be read at all.
Neither can happen to a message that was itself read from a text.
-/

namespace BuildWatch.Message

/-- Whether there are no doubles in what a message carries for others. -/
def Exact (message : Message) : Prop :=
  ∀ value, carried? message.body = some value → value.value.exact = true

theorem exact_toJson {message : Message} (exact : Exact message) :
    message.toJson.value.exact = true := by
  cases carries : carried? message.body with
  | none =>
      have fit : Json.Fits 3 message.toJson :=
        fits_toJson (by simp [carries])
      exact fit.1
  | some value =>
      have fit : Json.Fits (value.depth + 3) message.toJson := by
        apply fits_toJson
        intro other same
        cases carries.symm.trans same
        exact ⟨exact value carries, Nat.le_add_right value.depth 2⟩
      exact fit.1

/-! ## Writing first -/

/-- What reading the text of a message comes to. -/
theorem decode_encode_eq {message : Message} (exact : Exact message) :
    decode message.encode =
      if message.toJson.depth ≤ Json.maximumDepth then
        .ok
          ⟨⟨named message.trace.traceId, named message.trace.spanId⟩,
            message.body⟩
      else .error ⟨message.encode, .notJson⟩ := by
  have parsed : Json.parse? message.encode = _ :=
    Json.parse?_text message.toJson (exact_toJson exact)
  rw [decode, parsed]
  by_cases shallow : message.toJson.depth ≤ Json.maximumDepth
  · rw [if_pos shallow, if_pos shallow]
    simp only [readJson_toJson]
    rfl
  · rw [if_neg shallow, if_neg shallow]

theorem named_eq_self_iff {identifier : Option String} :
    named identifier = identifier ↔ identifier ≠ some "" := by
  cases identifier with
  | none => simp [named]
  | some text =>
      by_cases empty : text = "" <;> simp [named, empty]

/-- What becomes of a message in its text, and back. -/
theorem decode_encode_iff_kept {message : Message} (exact : Exact message) :
    decode message.encode = .ok message ↔
      message.trace.traceId ≠ some "" ∧ message.trace.spanId ≠ some "" ∧
        message.toJson.depth ≤ Json.maximumDepth := by
  obtain ⟨⟨traceId, spanId⟩, body⟩ := message
  rw [decode_encode_eq exact, ← named_eq_self_iff, ← named_eq_self_iff]
  split
  next shallow => simp [shallow]
  next deep => simp [deep]

/-! ## Reading first -/

theorem readIdentifier_ne_empty (fields : KeyMap Json) (name : String) :
    readIdentifier fields name ≠ some "" := by
  intro empty
  have kept := (Option.filter_eq_some_iff.mp empty).2
  simp at kept

/-- What is read is of the kind that was asked for. -/
theorem kind_of_readBody
    {fields : KeyMap Json} {kind : MessageKind} {body : MessageBody}
    (read : readBody fields kind = .ok body) : body.kind = kind := by
  cases kind with
  | negotiate =>
      obtain ⟨versions, _, same⟩ := bind_eq_ok_iff.mp read
      cases same
      rfl
  | negotiateResponse =>
      obtain ⟨version, _, same⟩ := bind_eq_ok_iff.mp read
      cases same
      rfl
  | caps =>
      cases read
      rfl
  | capsResponse =>
      cases read
      rfl
  | subscribe =>
      obtain ⟨watchType, _, same⟩ := bind_eq_ok_iff.mp read
      cases same
      rfl
  | subscribeResponse =>
      cases read
      rfl
  | cycle =>
      obtain ⟨number, _, readSources⟩ := bind_eq_ok_iff.mp read
      obtain ⟨sources, _, readNumber⟩ := bind_eq_ok_iff.mp readSources
      obtain ⟨known, _, same⟩ := bind_eq_ok_iff.mp readNumber
      cases same
      rfl
  | acknowledgment step =>
      obtain ⟨number, _, same⟩ := bind_eq_ok_iff.mp read
      cases same
      rfl
  | exit =>
      obtain ⟨description, _, same⟩ := bind_eq_ok_iff.mp read
      cases same
      rfl

/-- What a message carries is a field of the object that it was read from. -/
theorem carried_of_readBody
    {fields : KeyMap Json} {kind : MessageKind} {body : MessageBody}
    {value : Json} (read : readBody fields kind = .ok body)
    (carries : carried? body = some value) :
    value = (fields.get? "caps").getD Json.null := by
  cases body with
  | caps requested =>
      cases kind_of_readBody read
      cases read
      exact (Option.some.inj carries).symm
  | capsResponse granted =>
      cases kind_of_readBody read
      cases read
      exact (Option.some.inj carries).symm
  | _ => cases carries

theorem decode_eq_ok_iff {raw : String} {message : Message} :
    decode raw = .ok message ↔
      ∃ json, Json.parse? raw = some json ∧ readJson json = .ok message := by
  unfold decode
  cases Json.parse? raw with
  | none => simp
  | some json => cases read : readJson json <;> simp [Except.mapError, read]

theorem readJson_eq_ok_iff {json : Json} {message : Message} :
    readJson json = .ok message ↔
      ∃ fields name kind,
        json = Json.object fields ∧
          (fields.get? "kind").bind Json.asString? = some name ∧
          MessageKind.ofName? name = some kind ∧
          readBody fields kind = .ok message.body ∧
          message.trace = readTrace fields := by
  constructor
  · intro read
    unfold readJson at read
    split at read
    next fields looks =>
      have whole : json = Json.object fields := Json.eq_of_view looks
      unfold readFields at read
      split at read
      next => simp at read
      next name named =>
        split at read
        next => simp at read
        next kind known =>
          split at read
          next => simp at read
          next body readAll =>
            cases read
            exact ⟨fields, name, kind, whole, named, known, readAll, rfl⟩
    next => simp at read
  · rintro ⟨fields, name, kind, rfl, named, known, readAll, trace⟩
    obtain ⟨own, body⟩ := message
    simp only at trace readAll
    subst trace
    simp only [readJson, Json.view_object, readFields, named, known, readAll]

/-- A message that was read from a text can be written and read again. -/
theorem portable_of_decode
    {raw : String} {message : Message} (decoded : decode raw = .ok message)
    (exact : Exact message) : Portable message := by
  obtain ⟨json, parsed, read⟩ := decode_eq_ok_iff.mp decoded
  obtain ⟨fields, name, kind, rfl, _, _, body, trace⟩ :=
    readJson_eq_ok_iff.mp read
  have shallow := Json.depth_le_of_parse? parsed
  have carries :
      ∀ value, carried? message.body = some value → Json.Fits 126 value := by
    intro value carries
    refine ⟨exact value carries, ?_⟩
    rw [carried_of_readBody body carries]
    cases found : fields.get? "caps" with
    | none => exact Nat.zero_le 126
    | some bound =>
        have below := Json.depth_lt_of_get? found
        exact Nat.le_of_lt_succ (Nat.lt_of_lt_of_le below shallow)
  refine ⟨fits_toJson carries, ?_, ?_⟩
  · rw [trace]
    exact readIdentifier_ne_empty fields "trace_id"
  · rw [trace]
    exact readIdentifier_ne_empty fields "span_id"

/--
A message is read back from its text exactly if no empty trace identifier is
lost and it is not nested too deeply, which holds of every message that was
read from a text.
-/
theorem decode_encode_iff {message : Message} (exact : Exact message) :
    (decode message.encode = .ok message ↔
      message.trace.traceId ≠ some "" ∧ message.trace.spanId ≠ some "" ∧
        message.toJson.depth ≤ 127) ∧
      ∀ raw, decode raw = .ok message →
        decode message.encode = .ok message := by
  refine ⟨decode_encode_iff_kept exact, ?_⟩
  intro raw decoded
  exact decode_encode (portable_of_decode decoded exact)

/-- Arrays of which each is the only item of the next. -/
def nest : Nat → Json
  | 0 => Json.null
  | levels + 1 => Json.array [nest levels]

theorem fits_nest (levels : Nat) : Json.Fits levels (nest levels) := by
  induction levels with
  | zero => exact Json.fits_null 0
  | succ levels ih => exact Json.fits_array (by simpa using ih)

theorem depth_nest (levels : Nat) : (nest levels).value.depth = levels := by
  induction levels with
  | zero => rfl
  | succ levels ih =>
      have whole :
          (nest (levels + 1)).value.depth =
            max (nest levels).value.depth 0 + 1 :=
        rfl
      rw [whole, ih, Nat.max_zero]

/-- A request that carries so many nested arrays. -/
def nestedRequest (levels : Nat) : Message := plain (.caps (nest levels))

theorem exact_nestedRequest (levels : Nat) : Exact (nestedRequest levels) := by
  intro value carries
  cases carries
  exact (fits_nest levels).1

theorem depth_nestedRequest (levels : Nat) :
    (nestedRequest levels).toJson.depth = levels + 1 := by
  have whole :
      (nestedRequest levels).toJson.depth =
        max (nest levels).value.depth 0 + 1 :=
    rfl
  rw [whole, depth_nest, Nat.max_zero]

theorem decode_encode_iff_nestedRequest :
    Exact (nestedRequest 126) ∧
      decode (nestedRequest 126).encode = .ok (nestedRequest 126) ∧
      Exact (nestedRequest 127) ∧
      decode (nestedRequest 127).encode ≠ .ok (nestedRequest 127) := by
  have least := exact_nestedRequest 126
  have deeper := exact_nestedRequest 127
  refine ⟨least, ?_, deeper, ?_⟩
  · refine (decode_encode_iff least).1.mpr ⟨nofun, nofun, ?_⟩
    rw [depth_nestedRequest]
  · intro kept
    have shallow := ((decode_encode_iff deeper).1.mp kept).2.2
    rw [depth_nestedRequest] at shallow
    exact absurd shallow (by decide)

end BuildWatch.Message
