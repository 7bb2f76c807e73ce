import Mathlib.Data.List.Infix

/-!
# Streams of header-prefixed frames

A frame is a fixed-size header, which announces the size of the payload,
followed by that payload.  A reader that alternates between the two stages cuts
a byte stream back into frames whatever the segmentation in which the stream
arrives.  The facts are stated over an arbitrary frame type that can be taken
apart into a header and a payload.
-/

namespace ProcessManagerService.FrameStream

/-- A frame format: the layout of the header and the payload size it
announces.  Both ends of a stream share it. -/
structure FrameFormat (Header Frame Byte : Type*) where
  headerSize : ℕ
  headerSize_pos : 0 < headerSize
  encodeHeader : Header → List Byte
  decodeHeader : List Byte → Header
  length_encodeHeader : ∀ header, (encodeHeader header).length = headerSize
  decode_encodeHeader : ∀ header, decodeHeader (encodeHeader header) = header
  payloadSize : Header → ℕ
  header : Frame → Header
  payload : Frame → List Byte
  frame : Header → List Byte → Frame
  frame_eta : ∀ value, frame (header value) (payload value) = value

namespace FrameFormat

variable {Header Frame Byte : Type*} (format : FrameFormat Header Frame Byte)

def encode (value : Frame) : List Byte :=
  format.encodeHeader (format.header value) ++ format.payload value

def encodeAll (frames : List Frame) : List Byte :=
  frames.flatMap format.encode

/-- The header announces the payload that the frame carries. -/
def WellSized (value : Frame) : Prop :=
  (format.payload value).length = format.payloadSize (format.header value)

@[simp]
theorem encodeAll_cons (value : Frame) (frames : List Frame) :
    format.encodeAll (value :: frames) = format.encode value ++ format.encodeAll frames :=
  rfl

@[simp]
theorem encodeAll_append (left right : List Frame) :
    format.encodeAll (left ++ right) = format.encodeAll left ++ format.encodeAll right :=
  List.flatMap_append

@[simp]
theorem length_encode (value : Frame) :
    (format.encode value).length = format.headerSize + (format.payload value).length := by
  rw [encode, List.length_append, format.length_encodeHeader]

theorem length_encode_le_encodeAll {value : Frame} {frames : List Frame}
    (hmem : value ∈ frames) :
    (format.encode value).length ≤ (format.encodeAll frames).length := by
  obtain ⟨before, after, rfl⟩ := List.append_of_mem hmem
  simp only [encodeAll_append, encodeAll_cons, List.length_append]
  omega

/-- Which frames have been written completely can be read off the bytes: with
`done` followed by less than the whole next frame on the wire, the first
`count` frames have all their bytes there exactly when they are among
`done`. -/
theorem le_length_iff_encodeAll_take_isPrefix {done rest : List Frame}
    {unfinished : List Byte}
    (hunfinished : ∀ value ∈ rest.head?, unfinished.length < (format.encode value).length)
    {count : ℕ} (hcount : count ≤ (done ++ rest).length) :
    count ≤ done.length ↔
      format.encodeAll ((done ++ rest).take count) <+:
        format.encodeAll done ++ unfinished := by
  constructor
  · intro hle
    rw [List.take_append_of_le_length hle]
    refine List.IsPrefix.trans ?_ (List.prefix_append _ _)
    refine ⟨format.encodeAll (done.drop count), ?_⟩
    rw [← encodeAll_append, List.take_append_drop]
  · intro hprefix
    by_contra hlt
    obtain ⟨extra, rfl⟩ := Nat.exists_eq_add_of_lt (Nat.lt_of_not_le hlt)
    cases rest with
    | nil =>
        rw [List.append_nil] at hcount
        omega
    | cons value rest =>
        have hlength := hprefix.length_le
        have hshort := hunfinished value (by simp)
        have htake : (done ++ value :: rest).take (done.length + extra + 1) =
            done ++ value :: rest.take extra := by
          rw [Nat.add_assoc, List.take_length_add_append, List.take_succ_cons]
        rw [htake, encodeAll_append, encodeAll_cons] at hlength
        simp only [List.length_append] at hlength
        omega

end FrameFormat

/-- A reader is waiting for a header or for the payload of a header. -/
inductive Stage (Header : Type*) where
  | header
  | payload (header : Header)
  deriving DecidableEq

/-- A reader with the bytes it has not consumed yet and the frames it has
delivered so far, oldest first. -/
structure Reader (Header Frame Byte : Type*) where
  stage : Stage Header
  buffer : List Byte
  delivered : List Frame

namespace Reader

variable {Header Frame Byte : Type*} (format : FrameFormat Header Frame Byte)

def accept (reader : Reader Header Frame Byte) (segment : List Byte) :
    Reader Header Frame Byte :=
  { reader with buffer := reader.buffer ++ segment }

/-- Finish the current stage, when the buffer holds all of its bytes. -/
def advance (reader : Reader Header Frame Byte) : Option (Reader Header Frame Byte) :=
  match reader.stage with
  | .header =>
      if format.headerSize ≤ reader.buffer.length then
        some { reader with
          stage := .payload (format.decodeHeader (reader.buffer.take format.headerSize))
          buffer := reader.buffer.drop format.headerSize }
      else none
  | .payload header =>
      if format.payloadSize header ≤ reader.buffer.length then
        some {
          stage := .header
          buffer := reader.buffer.drop (format.payloadSize header)
          delivered := reader.delivered ++
            [format.frame header (reader.buffer.take (format.payloadSize header))] }
      else none

/-- What the reader still owes for the frames `all`, when the bytes `coming`
are still on their way: the buffer followed by `coming` is what is left of the
encoding. -/
inductive Owes (all : List Frame) (reader : Reader Header Frame Byte)
    (coming : List Byte) : Prop where
  | header (todo : List Frame) (hstage : reader.stage = .header)
      (hall : reader.delivered ++ todo = all)
      (hbytes : reader.buffer ++ coming = format.encodeAll todo)
  | payload (value : Frame) (todo : List Frame)
      (hstage : reader.stage = .payload (format.header value))
      (hall : reader.delivered ++ value :: todo = all)
      (hbytes : reader.buffer ++ coming = format.payload value ++ format.encodeAll todo)

variable {format}

theorem advance_of_header {reader : Reader Header Frame Byte} (hstage : reader.stage = .header)
    (henough : format.headerSize ≤ reader.buffer.length) :
    reader.advance format = some { reader with
      stage := .payload (format.decodeHeader (reader.buffer.take format.headerSize))
      buffer := reader.buffer.drop format.headerSize } := by
  rw [advance, hstage]
  exact if_pos henough

theorem advance_of_payload {reader : Reader Header Frame Byte} {header : Header}
    (hstage : reader.stage = .payload header)
    (henough : format.payloadSize header ≤ reader.buffer.length) :
    reader.advance format = some {
      stage := .header
      buffer := reader.buffer.drop (format.payloadSize header)
      delivered := reader.delivered ++
        [format.frame header (reader.buffer.take (format.payloadSize header))] } := by
  rw [advance, hstage]
  exact if_pos henough

/-- The first `head.length` bytes of a buffer that starts with `head`. -/
private theorem take_drop_of_append_eq {buffer coming head tail : List Byte}
    (hle : head.length ≤ buffer.length) (heq : buffer ++ coming = head ++ tail) :
    buffer.take head.length = head ∧ buffer.drop head.length ++ coming = tail := by
  have hsplit : buffer.take head.length ++ (buffer.drop head.length ++ coming) =
      head ++ tail := by
    rw [← List.append_assoc, List.take_append_drop, heq]
  exact List.append_inj hsplit (by simp [hle])

theorem Owes.accept {all : List Frame} {reader : Reader Header Frame Byte}
    {segment coming : List Byte} (howes : Owes format all reader (segment ++ coming)) :
    Owes format all (reader.accept segment) coming := by
  cases howes with
  | header todo hstage hall hbytes =>
      exact .header todo hstage hall (by rw [← hbytes]; simp [Reader.accept])
  | payload value todo hstage hall hbytes =>
      exact .payload value todo hstage hall (by rw [← hbytes]; simp [Reader.accept])

/-- One stage consumes exactly the bytes the encoder wrote for it. -/
theorem Owes.advance {all : List Frame} {reader next : Reader Header Frame Byte}
    {coming : List Byte} (hsized : ∀ value ∈ all, format.WellSized value)
    (howes : Owes format all reader coming) (hnext : reader.advance format = some next) :
    Owes format all next coming := by
  cases howes with
  | header todo hstage hall hbytes =>
      rw [Reader.advance, hstage] at hnext
      simp only [Option.ite_none_right_eq_some, Option.some.injEq] at hnext
      obtain ⟨henough, rfl⟩ := hnext
      cases todo with
      | nil =>
          have hempty : reader.buffer = [] := (List.append_eq_nil_iff.mp hbytes).1
          rw [hempty] at henough
          exact absurd henough (Nat.not_le_of_lt format.headerSize_pos)
      | cons value todo =>
          rw [FrameFormat.encodeAll_cons, FrameFormat.encode, List.append_assoc] at hbytes
          rw [← format.length_encodeHeader (format.header value)] at henough ⊢
          obtain ⟨htake, hdrop⟩ := take_drop_of_append_eq henough hbytes
          refine .payload value todo ?_ hall hdrop
          simp only [htake, format.decode_encodeHeader]
  | payload value todo hstage hall hbytes =>
      have hsize : format.payloadSize (format.header value) =
          (format.payload value).length := (hsized value (by simp [← hall])).symm
      rw [Reader.advance, hstage] at hnext
      simp only [Option.ite_none_right_eq_some, Option.some.injEq] at hnext
      obtain ⟨henough, rfl⟩ := hnext
      rw [hsize] at henough ⊢
      obtain ⟨htake, hdrop⟩ := take_drop_of_append_eq henough hbytes
      refine .header todo rfl ?_ hdrop
      simpa [htake, format.frame_eta] using hall

/-- As long as bytes are coming, a payload that the reader waits for is not
empty: the payloads before the last one are not, and an empty last one would
have left nothing to come. -/
theorem Owes.payloadSize_pos {frames : List Frame} {last : Frame}
    {reader : Reader Header Frame Byte} {coming : List Byte} {header : Header}
    (hsized : ∀ value ∈ frames ++ [last], format.WellSized value)
    (hpayload : ∀ value ∈ frames, format.payload value ≠ [])
    (howes : Owes format (frames ++ [last]) reader coming) (hcoming : coming ≠ [])
    (hheader : reader.stage = .payload header) : 0 < format.payloadSize header := by
  cases howes with
  | header todo hstage =>
      rw [hstage] at hheader
      cases hheader
  | payload value todo hstage hall hbytes =>
      obtain rfl : format.header value = header := by
        rw [hstage] at hheader
        exact Stage.payload.inj hheader
      rw [← hsized value (by simp [← hall]), List.length_pos_iff]
      intro hempty
      have htodo : todo ≠ [] := by
        rintro rfl
        rw [hempty] at hbytes
        exact hcoming (List.append_eq_nil_iff.mp hbytes).2
      have hinit : reader.delivered ++ value :: todo.dropLast = frames := by
        have hdrop : (frames ++ [last]).dropLast = frames := List.dropLast_concat
        rw [← hdrop, ← hall, List.dropLast_append_of_ne_nil (List.cons_ne_nil value todo),
          List.dropLast_cons_of_ne_nil htodo]
      exact hpayload value (by simp [← hinit]) hempty

/-- As long as a byte of the last frame is missing, only frames before it have
been delivered. -/
theorem Owes.delivered_isPrefix {frames : List Frame} {last : Frame}
    {reader : Reader Header Frame Byte} {missing : List Byte}
    (howes : Owes format (frames ++ [last]) reader missing) (hmissing : missing ≠ []) :
    reader.delivered <+: frames := by
  have hproper : ∃ todo, todo ≠ [] ∧ reader.delivered ++ todo = frames ++ [last] := by
    cases howes with
    | header todo hstage hall hbytes =>
        refine ⟨todo, ?_, hall⟩
        rintro rfl
        exact hmissing (List.append_eq_nil_iff.mp hbytes).2
    | payload value todo hstage hall hbytes =>
        exact ⟨value :: todo, List.cons_ne_nil _ _, hall⟩
  obtain ⟨todo, htodo, hall⟩ := hproper
  have hprefix : reader.delivered <+: frames ++ [last] := ⟨todo, hall⟩
  rcases List.prefix_concat_iff.mp hprefix with heq | hprefix
  · rw [heq] at hall
    exact absurd (List.append_right_eq_self.mp hall) htodo
  · exact hprefix

/-- The frame that the reader waits for is the last one, when it cannot advance
although all but a part of the last frame has arrived. -/
private theorem todo_eq_nil_of_short {frames todo before : List Frame}
    {value last : Frame} (hall : before ++ value :: todo = frames ++ [last])
    {buffer missing head : List Byte}
    (hbound : missing.length ≤ (format.encode last).length)
    (hbytes : buffer ++ missing = head ++ format.encodeAll todo)
    (hshort : buffer.length < head.length) : todo = [] := by
  by_contra htodo
  have hlast : last ∈ todo := by
    have hgetLast := congrArg List.getLast? hall
    rw [List.getLast?_append_of_ne_nil _ (by simp), List.getLast?_cons,
      List.getLast?_append_of_ne_nil _ (by simp), List.getLast?_singleton,
      Option.some.injEq, List.getLast?_eq_some_getLast htodo, Option.getD_some] at hgetLast
    rw [← hgetLast]
    exact List.getLast_mem htodo
  have hle := format.length_encode_le_encodeAll hlast
  have hlength := congrArg List.length hbytes
  simp only [List.length_append] at hlength
  omega

/-- A reader that can do no more with what has arrived has delivered every
complete frame. -/
theorem Owes.delivered_eq {frames : List Frame} {last : Frame}
    {reader : Reader Header Frame Byte} {missing : List Byte}
    (hsized : ∀ value ∈ frames ++ [last], format.WellSized value)
    (howes : Owes format (frames ++ [last]) reader missing) (hmissing : missing ≠ [])
    (hbound : missing.length ≤ (format.encode last).length)
    (hquiet : reader.advance format = none) : reader.delivered = frames := by
  cases howes with
  | header todo hstage hall hbytes =>
      rw [Reader.advance, hstage] at hquiet
      simp only [ite_eq_right_iff, reduceCtorEq, imp_false, Nat.not_le] at hquiet
      cases todo with
      | nil => exact absurd (List.append_eq_nil_iff.mp hbytes).2 hmissing
      | cons value todo =>
          have hnil : todo = [] := by
            apply todo_eq_nil_of_short hall hbound hbytes
            rw [FrameFormat.length_encode]
            omega
          subst hnil
          exact (List.append_inj' hall rfl).1
  | payload value todo hstage hall hbytes =>
      have hsize : (format.payload value).length =
          format.payloadSize (format.header value) := hsized value (by simp [← hall])
      rw [Reader.advance, hstage] at hquiet
      simp only [ite_eq_right_iff, reduceCtorEq, imp_false, Nat.not_le] at hquiet
      have hnil : todo = [] :=
        todo_eq_nil_of_short hall hbound hbytes (by omega)
      subst hnil
      exact (List.append_inj' hall rfl).1

/-- What a reader can still consume: two units a byte, and one more while a
payload is awaited, so that an empty payload is progress too. -/
def potential (reader : Reader Header Frame Byte) : ℕ :=
  2 * reader.buffer.length +
    match reader.stage with
    | .header => 0
    | .payload _ => 1

theorem potential_lt_of_advance {reader next : Reader Header Frame Byte}
    (hnext : reader.advance format = some next) : next.potential < reader.potential := by
  have hpos := format.headerSize_pos
  cases hstage : reader.stage with
  | header =>
      rw [Reader.advance, hstage] at hnext
      simp only [Option.ite_none_right_eq_some, Option.some.injEq] at hnext
      obtain ⟨henough, rfl⟩ := hnext
      simp only [potential, hstage, List.length_drop]
      omega
  | payload header =>
      rw [Reader.advance, hstage] at hnext
      simp only [Option.ite_none_right_eq_some, Option.some.injEq] at hnext
      obtain ⟨henough, rfl⟩ := hnext
      simp only [potential, hstage, List.length_drop]
      omega

end Reader

end ProcessManagerService.FrameStream
