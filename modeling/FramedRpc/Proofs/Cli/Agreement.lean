import Mathlib
import FramedRpc.Cli.Program
import FramedRpc.Proofs.Frame.Integrity
import FramedRpc.Proofs.Frame.Passage

namespace FramedRpc

namespace Text

inductive Spaced : List Char → List Char → Prop where
  | nil : Spaced [] []
  | blank {digits text : List Char} {c : Char} (blank : isBlank c = true) (rest : Spaced digits text) :
    Spaced digits (c :: text)
  | digit {digits text : List Char} (c : Char) (rest : Spaced digits text) : Spaced (c :: digits) (c :: text)

theorem Spaced.refl (digits : List Char) : Spaced digits digits := by
  induction digits with
  | nil => exact .nil
  | cons c digits ih => exact .digit c ih

theorem Spaced.filter {digits text : List Char} (spaced : Spaced digits text)
    (solid : ∀ c ∈ digits, isBlank c = false) : (text.filter fun c => !isBlank c) = digits := by
  induction spaced with
  | nil => rfl
  | blank blank rest ih =>
    rw [List.filter_cons_of_neg (by rw [blank]; decide)]
    exact ih solid
  | digit c rest ih =>
    rw [List.filter_cons_of_pos (by rw [solid c (.head _)]; rfl)]
    exact congrArg (c :: ·) (ih fun d member => solid d (.tail c member))

theorem Spaced.of_filter {digits text : List Char} (same : (text.filter fun c => !isBlank c) = digits) :
    Spaced digits text := by
  induction text generalizing digits with
  | nil =>
    cases same
    exact .nil
  | cons c text ih =>
    cases blank : isBlank c with
    | true =>
      rw [List.filter_cons_of_neg (by rw [blank]; decide)] at same
      exact .blank blank (ih same)
    | false =>
      rw [List.filter_cons_of_pos (by rw [blank]; rfl)] at same
      cases same
      exact .digit c (ih rfl)

theorem Utf8.encode_ascii {cs : List Char} (ascii : ∀ c ∈ cs, c.toNat < 128) :
    Utf8.encode (String.ofList cs) = cs.map Char.toUInt8 := by
  have each : ∀ c ∈ cs, String.utf8EncodeChar c = [c.toUInt8] := fun c member =>
    String.utf8EncodeChar_eq_singleton (Char.utf8Size_eq_one_iff.mpr (Nat.le_of_lt_succ (ascii c member)))
  have bytes : (String.ofList cs).toByteArray = (cs.flatMap String.utf8EncodeChar).toByteArray :=
    String.toByteArray_ofList
  unfold Utf8.encode
  rw [bytes, List.data_toByteArray, List.flatMap_congr each, List.map_eq_flatMap]

theorem Utf8.characters_ascii {cs : List Char} (ascii : ∀ c ∈ cs, c.toNat < 128) :
    (Utf8.encode (String.ofList cs)).map (fun byte => Char.ofNat byte.toNat) = cs := by
  rw [Utf8.encode_ascii ascii, List.map_map]
  refine (List.map_congr_left fun c member => ?_).trans (List.map_id cs)
  have small : c.toNat % 256 = c.toNat := Nat.mod_eq_of_lt (Nat.lt_trans (ascii c member) (by decide))
  have same : c.toUInt8.toNat = c.toNat := small
  rw [Function.comp_apply, same, Char.ofNat_toNat]
  rfl

theorem hexDigit_plain (n : Nat) : (hexDigit n).toNat < 128 ∧ isBlank (hexDigit n) = false := by
  have : ∀ d < 16, (hexDigit d).toNat < 128 ∧ isBlank (hexDigit d) = false := by decide
  have step : hexDigit n = hexDigit (n % 16) := by simp [hexDigit]
  rw [step]
  exact this _ (Nat.mod_lt _ (by omega))

theorem hexChars_plain (bytes : Bytes) : ∀ c ∈ hexChars bytes, c.toNat < 128 ∧ isBlank c = false := by
  intro c member
  obtain ⟨byte, -, digit⟩ := List.mem_flatMap.mp member
  simp only [List.mem_cons, List.not_mem_nil, or_false] at digit
  rcases digit with rfl | rfl <;> exact hexDigit_plain _

end Text

theorem Stats.resyncs_faulted (s : Stats) (fault : Fault) : (s.faulted fault).resyncs = s.resyncs + 1 := by
  cases fault <;> rfl

theorem Json.parse_text (s : String) : parse ("[" ++ quoted s ++ "]") = .ok (.list [.string s]) := by
  have typed : ("[" ++ quoted s ++ "]").toList = '[' :: '"' :: (s.toList.flatMap escaped ++ ['"', ']']) := by
    simp [quoted]
  have element (depth : Nat) : value depth ('"' :: (s.toList.flatMap escaped ++ ['"', ']'])) =
      .ok (.string s, [']']) := by
    unfold value
    show (string _).bind _ = _
    rw [string_quoted]
    rfl
  have list : value maxDepth ('[' :: '"' :: (s.toList.flatMap escaped ++ ['"', ']'])) =
      .ok (.list [.string s], []) := by
    unfold value
    show (items (value 126) true _ _).bind _ = _
    unfold items
    show ((Except.bind (value 126 _) _).bind _) = _
    rw [element]
    rfl
  unfold parse read
  simp only [typed, list]
  rfl

theorem Frame.encodeContent_text {s : String} (fits : (Text.Utf8.encode s).length ≤ Codec.maxLength) :
    ∃ bytes overhead, encodeContent (.list [.string s]) = .ok bytes ∧
      bytes.length = (Text.Utf8.encode s).length + overhead ∧ 4 ≤ overhead ∧ overhead ≤ 6 := by
  have free : (Value.list [.string s]).obstacle? = none := by
    show Option.or (ite _ _ _) none = none
    rw [if_pos fits]
    rfl
  have written : encodeContent (.list [.string s]) = .ok (2 :: (Scalar.write (.string s) ++ [0])) := by
    show Value.encode _ = _
    unfold Value.encode
    rw [free]
    rfl
  obtain ⟨tag, size, form, -, parts⟩ := Codec.writeSized_parts 12 13 fits
  have lengths := Codec.length_size form
  refine ⟨_, size.length + 3, written, ?_, by omega, by omega⟩
  have sized : Scalar.write (.string s) = tag :: (size ++ Text.Utf8.encode s) := parts
  rw [sized]
  simp only [List.length_cons, List.length_append, List.length_nil]
  omega

namespace Cli

theorem parseArguments_text (s : String) :
    parseArguments ("[" ++ Json.quoted s ++ "]") = .ok (.list [.string s]) := by
  unfold parseArguments
  rw [Json.parse_text]
  rfl

theorem hexBytes_spaced {text : String} {bytes : Bytes}
    (spaced : Text.Spaced (Text.hex bytes).toList text.toList) : hexBytes text = .ok bytes := by
  rw [Text.hex, String.toList_ofList] at spaced
  unfold hexBytes
  rw [spaced.filter fun c member => (Text.hexChars_plain bytes c member).2]
  simp only [Text.Utf8.characters_ascii fun c member => (Text.hexChars_plain bytes c member).1, Text.ofHex_hexChars]
  rfl

theorem decode_eq (chunk limit : Nat) (bytes : Bytes) :
    decode chunk limit bytes = ⟨((Deframer.new limit).feed bytes).2, ((Deframer.new limit).feed bytes).1.stats⟩ := by
  unfold decode
  rw [Deframer.feedPieces_flatten, Bytes.flatten_pieces]

theorem execute_decode {text : String} {bytes : Bytes} (read : hexBytes text = .ok bytes) (s : Surroundings)
    (format : OutputFormat) (chunk limit : Nat) :
    execute s format (.decode ⟨.hex text, chunk, limit⟩) =
      let r := decode chunk limit bytes
      .finished (.ended (decodeCode bytes r)
        (Report.packets format r.packets ++ Report.stats format r.stats) none) := by
  unfold execute frameBytes
  simp only [read]

def EncodeRequest.packet (r : EncodeRequest) (content : Value) : Packet :=
  ⟨r.isResponse, r.typeId, r.requestId, content⟩

theorem encode_eq (r : EncodeRequest) : encode r =
    match parseArguments r.args with
    | .error f => .error f
    | .ok content =>
      match (r.packet content).encode with
      | .error e => .error (.ofFrame "encode failed" e)
      | .ok frame => .ok ⟨r.typeId, r.requestId, r.isResponse, frame⟩ := by
  unfold encode EncodeRequest.packet
  cases parseArguments r.args with
  | error f => rfl
  | ok content =>
    simp only [bind, Except.bind, Except.mapError, pure, Except.pure]
    cases Packet.encode ⟨r.isResponse, r.typeId, r.requestId, content⟩ <;> rfl

theorem encode_eq_ok {r : EncodeRequest} {report : FrameReport} : encode r = .ok report ↔
    ∃ content frame, parseArguments r.args = .ok content ∧ (r.packet content).encode = .ok frame ∧
      ⟨r.typeId, r.requestId, r.isResponse, frame⟩ = report := by
  rw [encode_eq]
  cases parseArguments r.args with
  | error f => exact ⟨nofun, fun ⟨_, _, parsed, _⟩ => nomatch parsed⟩
  | ok content =>
    cases made : (r.packet content).encode with
    | error e =>
      simp only [made]
      refine iff_of_false nofun ?_
      rintro ⟨_, _, ⟨⟩, again, -⟩
      cases made.symm.trans again
    | ok frame =>
      simp only [made]
      constructor
      · rintro ⟨⟩
        exact ⟨content, frame, rfl, made, rfl⟩
      · rintro ⟨_, _, ⟨⟩, again, rfl⟩
        cases made.symm.trans again
        rfl

theorem execute_encode {r : EncodeRequest} {report : FrameReport} (encoded : encode r = .ok report) (s : Surroundings)
    (format : OutputFormat) : execute s format (.encode r) = .finished (.success (Report.frame format report)) := by
  unfold execute
  simp only [encoded]

theorem parseArguments_failure {text : String} {f : Failure} (failed : parseArguments text = .error f) :
    f.code = .usage := by
  unfold parseArguments at failed
  cases parsed : Json.parse text with
  | error fault =>
    rw [parsed] at failed
    cases failed
    rfl
  | ok tree =>
    cases converted : Value.ofJson tree with
    | error e =>
      simp only [parsed, bind, Except.bind, Except.mapError, converted] at failed
      cases failed
      rfl
    | ok v =>
      simp only [parsed, bind, Except.bind, Except.mapError, converted] at failed
      split at failed
      · cases failed
      · cases failed
        rfl

theorem Failure.ofFrame_not_success (context : String) (e : FrameError) : (ofFrame context e).code ≠ .success := by
  cases e with
  | io cause =>
    obtain ⟨kind, text⟩ := cause
    cases kind <;> nofun
  | _ => nofun

theorem encode_failure {r : EncodeRequest} {f : Failure} (failed : encode r = .error f) : f.code ≠ .success := by
  rw [encode_eq] at failed
  cases parsed : parseArguments r.args with
  | error g =>
    rw [parsed] at failed
    cases failed
    rw [parseArguments_failure parsed]
    nofun
  | ok content =>
    rw [parsed] at failed
    cases made : (r.packet content).encode with
    | error e =>
      simp only [made] at failed
      cases failed
      exact Failure.ofFrame_not_success _ e
    | ok frame =>
      simp only [made] at failed
      cases failed

-- A decoder with the usual limit takes answers that are answers to something, and contents within the limit.
def EncodeRequest.Accepted (r : EncodeRequest) (content : Value) : Prop :=
  ¬(r.isResponse ∧ r.requestId = 0) ∧
    ∀ bytes, Frame.encodeContent content = .ok bytes → bytes.length ≤ Frame.defaultLimit

variable {r : EncodeRequest} {content : Value} {frame : Bytes}

theorem decode_accepted (made : (r.packet content).encode = .ok frame) (accepted : r.Accepted content) (chunk : Nat) :
    decode chunk Frame.defaultLimit frame = ⟨[r.packet content], ⟨1, 0, 0, 0, 0, 0⟩⟩ := by
  have fed := Deframer.feed_frame (d := .new Frame.defaultLimit) rfl made accepted.2 accepted.1 []
  rw [List.append_nil, Deframer.feed] at fed
  rw [decode_eq, fed]
  rfl

theorem decode_refused (made : (r.packet content).encode = .ok frame) (refused : ¬r.Accepted content) (chunk : Nat) :
    0 < (decode chunk Frame.defaultLimit frame).stats.resyncs := by
  obtain ⟨bytes, encoded, -⟩ := Packet.encode_eq_ok.mp made
  have why : ∃ fault, (r.packet content).refusal? Frame.defaultLimit = some fault := by
    unfold Packet.refusal?
    simp only [encoded]
    by_cases large : Frame.defaultLimit < bytes.length
    · exact ⟨.length, if_pos large⟩
    · refine ⟨.range, ?_⟩
      rw [if_neg large, if_pos]
      refine Classical.byContradiction fun answers => refused ⟨answers, fun other again => ?_⟩
      cases encoded.symm.trans again
      exact Nat.le_of_not_lt large
  obtain ⟨fault, refusal⟩ := why
  have fed := Deframer.feed_refused (d := .new Frame.defaultLimit) rfl made refusal []
  rw [List.append_nil, List.append_nil] at fed
  obtain ⟨counted, total⟩ := Deframer.feed_counts (d := (Deframer.new Frame.defaultLimit).faulted fault) rfl
    (frame.drop 2)
  rw [decode_eq, fed, total]
  show 0 < (Stats.zero.faulted fault).resyncs + counted.resyncs
  rw [Stats.resyncs_faulted]
  omega

theorem encode_beyond {text : String} (beyond : Frame.defaultLimit < (Text.Utf8.encode text).length + 4)
    (fits : (Text.Utf8.encode text).length ≤ Codec.maxLength) :
    ∃ frame, encode ⟨4, 10, false, "[" ++ Json.quoted text ++ "]"⟩ = .ok ⟨4, 10, false, frame⟩ ∧
      0 < (decode 0 Frame.defaultLimit frame).stats.resyncs := by
  obtain ⟨content, overhead, carried, length, least, most⟩ := Frame.encodeContent_text fits
  let r : EncodeRequest := ⟨4, 10, false, "[" ++ Json.quoted text ++ "]"⟩
  have small : content.length ≤ Frame.maxContentLength := by
    unfold Codec.maxLength at fits
    unfold Frame.maxContentLength
    omega
  have made : (r.packet (.list [.string text])).encode = .ok (Frame.assemble ⟨false, 4, 10⟩ content) :=
    Packet.encode_eq_ok.mpr ⟨content, carried, (by decide : 4 ≤ Frame.maxTypeId),
      (by decide : 10 ≤ Frame.maxRequestId), small, rfl⟩
  have refused : ¬r.Accepted (.list [.string text]) := by
    intro accepted
    have within := accepted.2 content carried
    omega
  exact ⟨_, encode_eq_ok.mpr ⟨_, _, parseArguments_text text, made, rfl⟩, decode_refused made refused 0⟩

-- The digits that are printed are those of a frame with the given fields and content, and whoever decodes them finds
-- its packet alone, or gives it up and says so where the decoder does not take such packets.
theorem execute_encode_decode {s : Surroundings} {format : OutputFormat} {r : EncodeRequest} {outcome : Outcome}
    (ran : execute s format (.encode r) = .finished outcome) (succeeded : outcome.code = .success) :
    ∃ content frame, parseArguments r.args = .ok content ∧
      Packet.encode ⟨r.isResponse, r.typeId, r.requestId, content⟩ = .ok frame ∧
      outcome = .success (Report.frame format ⟨r.typeId, r.requestId, r.isResponse, frame⟩) ∧
      ∀ text : String, Text.Spaced (Text.hex frame).toList text.toList →
        ∀ (s' : Surroundings) (format' : OutputFormat) (chunk : Nat),
          let course := execute s' format' (.decode ⟨.hex text, chunk, Frame.defaultLimit⟩)
          (r.Accepted content → course = .finished (.success
            (Report.packets format' [⟨r.isResponse, r.typeId, r.requestId, content⟩] ++
              Report.stats format' ⟨1, 0, 0, 0, 0, 0⟩))) ∧
          (¬r.Accepted content → ∃ report : DecodeReport, 0 < report.stats.resyncs ∧
            course = .finished (.ended (decodeCode frame report)
              (Report.packets format' report.packets ++ Report.stats format' report.stats) none)) := by
  cases encoded : encode r with
  | error f =>
    unfold execute at ran
    simp only [encoded] at ran
    cases ran
    exact absurd succeeded (encode_failure encoded)
  | ok report =>
    rw [execute_encode encoded] at ran
    cases ran
    obtain ⟨content, frame, parsed, made, rfl⟩ := encode_eq_ok.mp encoded
    refine ⟨content, frame, parsed, made, rfl, ?_⟩
    intro text spaced s' format' chunk course
    have decoded : course = _ := execute_decode (hexBytes_spaced spaced) s' format' chunk Frame.defaultLimit
    constructor
    · intro accepted
      rw [decoded, decode_accepted made accepted chunk]
      rfl
    · intro refused
      exact ⟨_, decode_refused made refused chunk, decoded⟩

-- A request goes through digits with blanks between them and pieces of three bytes.
theorem execute_encode_decode_spaced :
    let s := Surroundings.closed [] [] []
    let frame : Bytes := [1, 7, 0, 7, 0, 7, 0, 10, 4, 2, 12, 3, 114, 112, 99, 0, 179, 127, 4, 142]
    execute s .raw (.encode ⟨4, 10, false, "[\"rpc\"]"⟩) = .finished (.success frame) ∧
      execute s .json (.decode ⟨.hex " 0107 0007 0007\n000a0 4 020c03 727063 00 b37f048e", 3, Frame.defaultLimit⟩) =
        .finished (.success (Report.packets .json [⟨false, 4, 10, .list [.string "rpc"]⟩] ++
          Report.stats .json ⟨1, 0, 0, 0, 0, 0⟩)) := by
  intro s frame
  obtain ⟨encoded, known, carried, spaced⟩ :
      encode ⟨4, 10, false, "[\"rpc\"]"⟩ = .ok ⟨4, 10, false, frame⟩ ∧
      parseArguments "[\"rpc\"]" = .ok (.list [.string "rpc"]) ∧
      Frame.encodeContent (.list [.string "rpc"]) = .ok [2, 12, 3, 114, 112, 99, 0] ∧
      Text.Spaced (Text.hexChars frame) " 0107 0007 0007\n000a0 4 020c03 727063 00 b37f048e".toList :=
    ⟨by cbv, by cbv, by cbv, .of_filter (by cbv)⟩
  have ran : execute s .raw (.encode ⟨4, 10, false, "[\"rpc\"]"⟩) = .finished (.success frame) :=
    execute_encode encoded s .raw
  obtain ⟨content, made, parsed, -, printed, decoded⟩ := execute_encode_decode ran rfl
  cases known.symm.trans parsed
  have same : frame = made := congrArg Outcome.output printed
  subst same
  refine ⟨ran, (decoded _ (String.toList_ofList.symm ▸ spaced) s .json 3).1 ⟨?_, ?_⟩⟩
  · exact fun nobody => Bool.noConfusion nobody.1
  · intro bytes written
    cases carried.symm.trans written
    exact Nat.le_of_ble_eq_true rfl

-- An answer to nobody is made and not accepted, and so is the list of one text that is as long as a text can be.
theorem execute_encode_decode_differ :
    let s := Surroundings.closed [] [] []
    let longest := String.ofList (List.replicate 16777215 'a')
    (execute s .raw (.encode ⟨4, 0, true, "[]"⟩) =
        .finished (.success [1, 7, 0, 2, 0, 2, 0, 0, 132, 2, 0, 195, 38, 40, 18]) ∧
      execute s .json (.decode ⟨.hex "0107000200020000840200c3262812", 0, Frame.defaultLimit⟩) =
        .finished (.ended .dataInvalid (Report.stats .json ⟨0, 1, 0, 0, 1, 0⟩) none)) ∧
    ∃ frame, execute s .raw (.encode ⟨4, 10, false, "[" ++ Json.quoted longest ++ "]"⟩) =
        .finished (.success frame) ∧
      ∃ report : DecodeReport, 0 < report.stats.resyncs ∧
        execute s .json (.decode ⟨.hex (Text.hex frame), 0, Frame.defaultLimit⟩) = .finished
          (.ended (decodeCode frame report)
            (Report.packets .json report.packets ++ Report.stats .json report.stats) none) := by
  intro s longest
  refine ⟨⟨?_, ?_⟩, ?_⟩
  · have encoded : encode ⟨4, 0, true, "[]"⟩ =
        .ok ⟨4, 0, true, [1, 7, 0, 2, 0, 2, 0, 0, 132, 2, 0, 195, 38, 40, 18]⟩ := by cbv
    exact execute_encode encoded s .raw
  · have read : hexBytes "0107000200020000840200c3262812" =
        .ok [1, 7, 0, 2, 0, 2, 0, 0, 132, 2, 0, 195, 38, 40, 18] := by cbv
    have decoded : decode 0 Frame.defaultLimit [1, 7, 0, 2, 0, 2, 0, 0, 132, 2, 0, 195, 38, 40, 18] =
        ⟨[], ⟨0, 1, 0, 0, 1, 0⟩⟩ := by cbv
    rw [execute_decode read, decoded]
    rfl
  · have size : (Text.Utf8.encode longest).length = 16777215 := by
      rw [Text.Utf8.encode_ascii fun c member => by rw [List.eq_of_mem_replicate member]; decide, List.length_map,
        List.length_replicate]
    have beyond : Frame.defaultLimit < (Text.Utf8.encode longest).length + 4 := by
      rw [size]
      exact Nat.le_of_ble_eq_true rfl
    obtain ⟨frame, encoded, resyncs⟩ := encode_beyond beyond (Nat.le_of_eq size)
    exact ⟨frame, execute_encode encoded s .raw, _, resyncs,
      execute_decode (hexBytes_spaced (.refl _)) s .json 0 Frame.defaultLimit⟩

end Cli
end FramedRpc
