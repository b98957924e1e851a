import ForeignBridge.Crossing.ToForeign
import ForeignBridge.Proofs.Heap.Covering
import ForeignBridge.Proofs.Names.Attributes
import ForeignBridge.Proofs.Text.Utf16
import ForeignBridge.Proofs.Text.WellFormed

/-!
# Strict texts

Texts cross without loss or not at all.  Bytes become the text that they encode, or are refused with
the length of their longest prefix that is well formed; units become the text that is written with
them, or are refused if a surrogate among them is not paired; and every text of the host comes back as
it is.  Whatever is refused, no error is left pending.
-/

namespace ForeignBridge

/-- What bytes come to: the text that they encode, or a refusal that tells how many bytes are well
formed. -/
structure Utf8.Strict (octets : List UInt8) (outcome : Except BridgeError Value) : Prop where
  accepts : (∃ v, outcome = .ok v) ↔ WellFormed octets
  back : ∀ v, outcome = .ok v → ∃ text, v = .text text ∧ encode text = octets
  refuses : ∀ error, outcome = .error error → ∃ fault,
    error = .typeConversion (.malformedText fault) ∧
      IsGreatest (wellFormedLengths octets) fault.index ∧
      ∃ stem, error.message = stem ++ s!" from index {fault.index}"

/-- What units come to: the text that is written with them, or a refusal. -/
structure Utf16.Strict (units : List UInt16) (outcome : Except BridgeError Value) : Prop where
  accepts : (∃ v, outcome = .ok v) ↔ Paired units
  back : ∀ v, outcome = .ok v → ∃ text, v = .text text ∧ encode text = units
  refuses : ∀ error, outcome = .error error → error =
    .typeConversion (.unencodable (some ⟨"UnicodeEncodeError", "surrogates not allowed"⟩))

/-- The number of well-formed bytes stands at the end of the message. -/
theorem Utf8.message_malformed (fault : Malformed) :
    ∃ stem, (BridgeError.typeConversion (.malformedText fault)).message =
      stem ++ s!" from index {fault.index}" := by
  have hinvalid : " bytes from index " = " bytes" ++ " from index " := rfl
  have hincomplete : "incomplete utf-8 byte sequence from index " =
      "incomplete utf-8 byte sequence" ++ " from index " := rfl
  rcases fault with ⟨index, length⟩
  unfold BridgeError.message ConversionFault.text Malformed.text
  cases length with
  | none =>
      refine ⟨"Type conversion error: " ++ ("string is not valid UTF-8: " ++
        "incomplete utf-8 byte sequence"), ?_⟩
      simp only [hincomplete, String.append_assoc, toString]
  | some n =>
      refine ⟨"Type conversion error: " ++ ("string is not valid UTF-8: " ++
        ("invalid utf-8 sequence of " ++ (n.repr ++ " bytes"))), ?_⟩
      simp only [hinvalid, String.append_assoc, toString]

theorem Utf8.strict_decode (octets : List UInt8) :
    Strict octets (((decode octets).mapError fun fault =>
      BridgeError.typeConversion (.malformedText fault)).map Value.text) := by
  by_cases h : WellFormed octets
  · rcases decode_of_wellFormed h with ⟨text, htext, hback⟩
    rw [htext]
    constructor
    case accepts => exact ⟨fun _ => h, fun _ => ⟨_, rfl⟩⟩
    case back =>
      rintro v ⟨⟩
      exact ⟨text, rfl, hback⟩
    case refuses => exact nofun
  · rcases decode_of_not_wellFormed h with ⟨fault, hfault, hgreatest⟩
    rw [hfault]
    constructor
    case accepts =>
      constructor
      · rintro ⟨_, ⟨⟩⟩
      · exact fun h' => absurd h' h
    case back => exact nofun
    case refuses =>
      rintro error ⟨⟩
      exact ⟨fault, rfl, hgreatest, message_malformed fault⟩

namespace Context

open Crossing Simulation

variable (ctx : Context) {depth : Nat} {s : Simulation} {ref : Ref} {object : Object}

section Served

variable (hready : s.Ready)

include hready

/-- An object that refers to nothing is given back, and the runtime is ready for more. -/
theorem exists_release_alone (hget : s.heap.get? ref = some object)
    (hchildren : object.children = []) :
    ∃ t, (answer (run depth) (.release ref)).outcome s = (.ok (), t) ∧ t.Ready := by
  have hdead := (Heap.release_alone hget fun _ => hchildren).1
  refine ⟨{ s with heap := (s.heap.release ref).heap }, ?_, hready.running, hready.quiet⟩
  rw [outcome_answer_of_running hready.running]
  exact outcome_release_of_dead hdead

theorem comes_access {r : Request} {given : r.Answer} {s' : Simulation}
    (read : Object → Attempt Simulation r.Answer) (hget : s.heap.get? ref = some object)
    (hserve : Simulation.serve (run depth) r = access ref >>= read)
    (hread : (read object).outcome s = (.ok given, s')) :
    (ask r).Comes (answer (run depth)) s (.ok given) s' := by
  apply comes_served hready
  have haccess : (access ref >>= read).outcome (s.withHeap s.heap) = _ :=
    outcome_access_bind hget read
  rw [hserve]
  exact haccess.trans hread

/-- A text is packed as its bytes are decoded, and the object is given back. -/
theorem comes_toHost_text {outcome : Except BridgeError String}
    (hget : s.heap.get? ref = some object)
    (hkind : object.kind = .bytes ∨ object.kind = .unicode) (hchildren : object.children = [])
    (h : (ctx.textToHost ref).Comes (answer (run depth)) s outcome s) :
    ∃ t, (ctx.toHost ref).Comes (answer (run depth)) s (outcome.map .text) t ∧ t.Ready := by
  have hasked : (ask (.kindOf ref)).Comes (answer (run depth)) s (.ok object.kind) s :=
    comes_access hready (fun o => pure o.kind) hget rfl rfl
  rcases exists_release_alone hready hget hchildren with ⟨t, hrelease, ht⟩
  refine ⟨t, Comes.bind hasked ?_, ht⟩
  have howned : (owning ref (ctx.textToHost ref >>= fun text => pure (Value.text text))).Comes
      (answer (run depth)) s (outcome.map .text) t :=
    Comes.owningAll h.map (.ask hrelease (.done () t))
  rcases hkind with hkind | hkind
  · rw [hkind]
    exact howned
  · rw [hkind]
    exact howned

theorem comes_textToHost {octets : List UInt8}
    (hbytes : (ask (.stringBytes ref)).Comes (answer (run depth)) s (.ok (some octets)) s) :
    (ctx.textToHost ref).Comes (answer (run depth)) s
      ((Utf8.decode octets).mapError fun fault => .typeConversion (.malformedText fault)) s := by
  have hchecked : (ctx.checkValue .packString (some octets)).Comes (answer (run depth)) s
      (.ok octets) s := Comes.bind (comes_errorPending hready) Comes.pure
  apply Comes.bind hbytes
  apply Comes.bind hchecked
  cases Utf8.decode octets with
  | ok text => exact Comes.pure
  | error fault => exact Comes.throw

/-- Bytes are packed strictly. -/
theorem exists_strict_bytes {octets : List UInt8} (hget : s.heap.get? ref = some (.bytes octets)) :
    ∃ outcome t, (ctx.toHost ref).Comes (answer (run depth)) s outcome t ∧
      Utf8.Strict octets outcome ∧ t.Ready := by
  have hbytes : (ask (.stringBytes ref)).Comes (answer (run depth)) s (.ok (some octets)) s :=
    comes_access hready _ hget rfl rfl
  rcases ctx.comes_toHost_text hready hget (.inl rfl) rfl (ctx.comes_textToHost hready hbytes) with
    ⟨t, hcomes, ht⟩
  exact ⟨_, t, hcomes, Utf8.strict_decode octets, ht⟩

theorem exists_text {text : String} (hget : s.heap.get? ref = some object)
    (hkind : object.kind = .unicode) (hchildren : object.children = [])
    (hbytes : (ask (.stringBytes ref)).Comes (answer (run depth)) s
      (.ok (some (Utf8.encode text))) s) :
    ∃ t, (ctx.toHost ref).Comes (answer (run depth)) s (.ok (.text text)) t ∧ t.Ready := by
  have hdecoded := ctx.comes_textToHost hready hbytes
  rw [Utf8.decode_encode] at hdecoded
  exact ctx.comes_toHost_text hready hget (.inr hkind) hchildren hdecoded

/-- Units are packed strictly, and the error that their runtime raises is fetched. -/
theorem exists_strict_units {units : List UInt16} (hget : s.heap.get? ref = some (.units units)) :
    ∃ outcome t, (ctx.toHost ref).Comes (answer (run depth)) s outcome t ∧
      Utf16.Strict units outcome ∧ t.Ready := by
  by_cases h : Utf16.Paired units
  · rcases Utf16.decode?_of_paired h with ⟨text, htext, hback⟩
    have hbytes : (ask (.stringBytes ref)).Comes (answer (run depth)) s
        (.ok (some (Utf8.encode text))) s :=
      comes_access hready _ hget rfl (by dsimp only; rw [htext]; rfl)
    rcases ctx.exists_text hready hget rfl rfl hbytes with ⟨t, hcomes, ht⟩
    refine ⟨_, t, hcomes, ?_, ht⟩
    constructor
    case accepts => exact ⟨fun _ => h, fun _ => ⟨_, rfl⟩⟩
    case back =>
      rintro v ⟨⟩
      exact ⟨text, rfl, hback⟩
    case refuses => exact nofun
  · have hraised : (ask (.stringBytes ref)).Comes (answer (run depth)) s (.ok none)
        { s with pending := some ⟨"UnicodeEncodeError", "surrogates not allowed"⟩ } :=
      comes_access hready _ hget rfl (by dsimp only; rw [Utf16.decode?_of_not_paired h]; rfl)
    have hrefused : (ctx.textToHost ref).Comes (answer (run depth)) s
        (.error (.typeConversion
          (.unencodable (some ⟨"UnicodeEncodeError", "surrogates not allowed"⟩)))) s := by
      apply Comes.bind hraised
      exact Comes.bind (comes_clearError_raised hready _) Comes.throw
    rcases ctx.comes_toHost_text hready hget (.inr rfl) rfl hrefused with ⟨t, hcomes, ht⟩
    refine ⟨_, t, hcomes, ?_, ht⟩
    constructor
    case accepts =>
      constructor
      · rintro ⟨_, ⟨⟩⟩
      · exact fun h' => absurd h' h
    case back => exact nofun
    case refuses =>
      rintro error ⟨⟩
      rfl

/-- A text of the host comes back as it is. -/
theorem exists_roundTrip_text (text : String) :
    ∃ t, (ctx.toForeign (.text text) >>= ctx.toHost).Comes (answer (run depth)) s
      (.ok (.text text)) t ∧ t.Ready := by
  have hmade : (ask (.newString text)).Comes (answer (run depth)) s
      (.ok (some (s.heap.allocate (.text text)).1))
      (s.withHeap (s.heap.allocate (.text text)).2) := comes_served hready rfl
  have hready' := ready_withHeap hready (s.heap.allocate (.text text)).2
  have hget := Heap.get?_allocate s.heap (.text text)
  have hforeign : (ctx.toForeign (.text text)).Comes (answer (run depth)) s
      (.ok (s.heap.allocate (.text text)).1) (s.withHeap (s.heap.allocate (.text text)).2) :=
    Comes.bind hmade (comes_checkRef ctx hready' .unpackString _)
  have hbytes : (ask (.stringBytes (s.heap.allocate (.text text)).1)).Comes (answer (run depth))
      (s.withHeap (s.heap.allocate (.text text)).2) (.ok (some (Utf8.encode text)))
      (s.withHeap (s.heap.allocate (.text text)).2) := comes_access hready' _ hget rfl rfl
  rcases ctx.exists_text hready' hget rfl rfl hbytes with ⟨t, hcomes, ht⟩
  exact ⟨t, Comes.bind hforeign hcomes, ht⟩

end Served

/-- Texts cross strictly.  Bytes are packed exactly if they are well formed, as the text that they
encode, and otherwise refused with the length of the longest prefix that is; units are packed exactly
if all surrogates are paired, as the text that is written with them; and a text of the host comes
back.  In no case is an error pending in the end. -/
theorem strict_of_ready (depth : Nat) (hready : s.Ready) :
    (∀ ref octets, s.heap.get? ref = some (.bytes octets) → ∃ outcome t,
      (ctx.toHost ref).Comes (answer (run depth)) s outcome t ∧ Utf8.Strict octets outcome ∧
        t.Ready) ∧
    (∀ ref units, s.heap.get? ref = some (.units units) → ∃ outcome t,
      (ctx.toHost ref).Comes (answer (run depth)) s outcome t ∧ Utf16.Strict units outcome ∧
        t.Ready) ∧
    ∀ text, ∃ t, (ctx.toForeign (.text text) >>= ctx.toHost).Comes (answer (run depth)) s
      (.ok (.text text)) t ∧ t.Ready :=
  ⟨fun _ _ => ctx.exists_strict_bytes hready, fun _ _ => ctx.exists_strict_units hready,
    ctx.exists_roundTrip_text hready⟩

/-!
Bytes with a sequence that breaks off, and units with two surrogates in the wrong order.
-/

/-- A running runtime with a text in bytes and one in units, neither of which is well formed. -/
def sampleTexts : Simulation where
  heap := ⟨#[none, some ⟨1, .null, Nat.one_pos⟩,
    some ⟨1, .bytes [0x41, 0xc3, 0xa9, 0xe2, 0x82], Nat.one_pos⟩,
    some ⟨2, .units [0x41, 0xde00, 0xd83d], Nat.two_pos⟩]⟩
  modules := .empty
  phase := .running
  startCount := 1
  refusesStart := false
  searchPaths := []
  pending := none
  called := []
  names := .empty

theorem strict_of_sampleTexts :
    sampleTexts.Ready ∧
    (∃ fault t, (toHost ⟨0, "sim", {}, 1⟩ ⟨2⟩).Comes (answer (run 1)) sampleTexts
      (.error (.typeConversion (.malformedText fault))) t ∧ fault.index = 3 ∧ t.pending = none) ∧
    (∃ t, (toHost ⟨0, "sim", {}, 1⟩ ⟨3⟩).Comes (answer (run 1)) sampleTexts
      (.error (.typeConversion
        (.unencodable (some ⟨"UnicodeEncodeError", "surrogates not allowed"⟩)))) t ∧
      t.pending = none) ∧
    ∃ t, (toForeign ⟨0, "sim", {}, 1⟩ (.text "Aé€😀") >>= toHost ⟨0, "sim", {}, 1⟩).Comes
      (answer (run 1)) sampleTexts (.ok (.text "Aé€😀")) t ∧ t.pending = none := by
  have hready : sampleTexts.Ready := ⟨rfl, rfl⟩
  have hdecoded : Utf8.decode [0x41, 0xc3, 0xa9, 0xe2, 0x82] = .error ⟨3, none⟩ := by decide
  have hoctets : ¬ Utf8.WellFormed [0x41, 0xc3, 0xa9, 0xe2, 0x82] := by
    intro h
    rcases Utf8.decode_of_wellFormed h with ⟨text, htext, -⟩
    rw [hdecoded] at htext
    cases htext
  have hunits : ¬ Utf16.Paired [0x41, 0xde00, 0xd83d] := by
    intro h
    rcases Utf16.decode?_of_paired h with ⟨text, htext, -⟩
    cases htext
  rcases strict_of_ready ⟨0, "sim", {}, 1⟩ 1 hready with ⟨hbytes, hwide, htexts⟩
  refine ⟨hready, ?_, ?_, ?_⟩
  · rcases hbytes ⟨2⟩ [0x41, 0xc3, 0xa9, 0xe2, 0x82] rfl with ⟨outcome, t, hcomes, hstrict, ht⟩
    cases outcome with
    | ok v => exact absurd (hstrict.accepts.1 ⟨v, rfl⟩) hoctets
    | error error =>
        rcases hstrict.refuses error rfl with ⟨fault, rfl, hgreatest, -⟩
        rcases Utf8.decode_of_not_wellFormed hoctets with ⟨found, hfound, hgreatest'⟩
        rw [hdecoded] at hfound
        cases hfound
        exact ⟨fault, t, hcomes, hgreatest.unique hgreatest', ht.quiet⟩
  · rcases hwide ⟨3⟩ [0x41, 0xde00, 0xd83d] rfl with ⟨outcome, t, hcomes, hstrict, ht⟩
    cases outcome with
    | ok v => exact absurd (hstrict.accepts.1 ⟨v, rfl⟩) hunits
    | error error =>
        rw [hstrict.refuses error rfl] at hcomes
        exact ⟨t, hcomes, ht.quiet⟩
  · rcases htexts "Aé€😀" with ⟨t, hcomes, ht⟩
    exact ⟨t, hcomes, ht.quiet⟩

end Context
end ForeignBridge
