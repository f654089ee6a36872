import Mathlib.Data.List.TakeWhile
import RequestPipeline.Extraction.Body
import RequestPipeline.Proofs.Http.Header

/-!
# Which bodies are read

A body is refused for its size before anything else, then an empty body is none, then its media type is looked at, and
last it is read as a document.  `NamesJson` says which texts are the media type of JSON, and `Admits` which headers
let a body through.

* `isJsonMediaType_iff`   the part of a media type before its parameters decides;
* `admits_iff`            a first value that is no text is passed over, as if there were none.

`readBody_decided`: **each result of reading a body, with exactly the requests that come to it.**
-/

namespace RequestPipeline

open Json (Value)

/-! ## media types -/

/-- what stands in a media type before its parameters, without the blanks around it and in lower case -/
def Essence (contentType : String) (essence : List Char) : Prop :=
  ∃ front parameters, contentType.toList = front ++ parameters ∧ ';' ∉ front ∧
    (∀ c, parameters.head? = some c → c = ';') ∧ essence = (Text.trimChars front).map Text.lowerChar

/-- whether a media type is that of JSON, or of something that is written in JSON -/
def NamesJson (contentType : String) : Prop :=
  ∃ essence, Essence contentType essence ∧
    (essence = "application/json".toList ∨ ∃ stem, essence = stem ++ "+json".toList)

theorem essence_iff {contentType : String} {essence : List Char} : Essence contentType essence ↔
    essence = (Text.trimChars (contentType.toList.takeWhile (· != ';'))).map Text.lowerChar := by
  constructor
  · rintro ⟨front, parameters, ht, hf, hp, rfl⟩
    have hall : ∀ c ∈ front, (c != ';') = true := fun c hc => bne_iff_ne.mpr fun e => hf (e ▸ hc)
    have hnone : parameters.takeWhile (· != ';') = [] := by
      cases parameters with
      | nil => rfl
      | cons c cs =>
        have hc : c = ';' := hp c rfl
        rw [hc]
        rfl
    rw [ht, List.takeWhile_append_of_pos hall, hnone, List.append_nil]
  · rintro rfl
    refine ⟨_, contentType.toList.dropWhile (· != ';'), List.takeWhile_append_dropWhile.symm, fun h => ?_, ?_, rfl⟩
    · exact absurd (List.mem_takeWhile_imp h) (by decide)
    · intro c hc
      have hn := List.head?_dropWhile_not (· != ';') contentType.toList
      rw [hc] at hn
      simpa using hn

theorem isJsonMediaType_iff {contentType : String} : isJsonMediaType contentType = true ↔ NamesJson contentType := by
  unfold isJsonMediaType NamesJson jsonMediaType
  simp only [essence_iff, exists_eq_left, Bool.or_eq_true, beq_iff_eq, List.isSuffixOf_iff_suffix]
  refine or_congr_right ?_
  exact ⟨fun ⟨stem, h⟩ => ⟨stem, h.symm⟩, fun ⟨stem, h⟩ => ⟨stem, h.symm⟩⟩

instance (contentType : String) : Decidable (NamesJson contentType) := decidable_of_iff _ isJsonMediaType_iff

/-! ## headers -/

/-- whether the headers of a body let it be read as JSON -/
inductive Admits (headers : Headers) : Prop
  | untyped (absent : headers.getAll "content-type" = [])
  | json {value : Bytes} {contentType : String} (first : headers.get? "content-type" = some value)
    (text : headerText? value = some contentType) (json : NamesJson contentType)
  /-- a first value that is no text, whatever it says -/
  | unreadable {value : Bytes} (first : headers.get? "content-type" = some value)
    (byte : ∃ b ∈ value, isVisible b = false)

/-- whether the first value for the type of a body is a text that is no media type of JSON -/
def Foreign (headers : Headers) (contentType : String) : Prop :=
  headers.text? "content-type" = some contentType ∧ ¬ NamesJson contentType

section
variable {headers : Headers}

theorem admits_iff : Admits headers ↔ ∀ contentType, ¬ Foreign headers contentType := by
  unfold Foreign Headers.text?
  constructor
  · rintro h contentType ⟨ht, hn⟩
    obtain ⟨value, hv, ht⟩ := Option.bind_eq_some_iff.mp ht
    cases h with
    | untyped absent =>
      rw [Headers.get?_eq_none_iff.mpr absent] at hv
      cases hv
    | json first text json =>
      cases hv.symm.trans first
      cases ht.symm.trans text
      exact hn json
    | unreadable first byte =>
      cases hv.symm.trans first
      rw [headerText?_eq_none_iff.mpr byte] at ht
      cases ht
  · intro h
    cases hv : headers.get? "content-type" with
    | none => exact .untyped (Headers.get?_eq_none_iff.mp hv)
    | some value =>
      cases ht : headerText? value with
      | none => exact .unreadable hv (headerText?_eq_none_iff.mp ht)
      | some contentType =>
        refine .json hv ht (Decidable.byContradiction fun hn => h contentType ⟨?_, hn⟩)
        exact Option.bind_eq_some_iff.mpr ⟨value, hv, ht⟩

end

/-! ## bodies -/

/-- the result of reading a body of a request, within a limit: which it is, and exactly when -/
structure BodyDecided (max : Nat) (headers : Headers) (body : Bytes) (r : Except ExtractionFault (Option Value)) :
    Prop where
  /-- a body over the limit is refused, whatever its type -/
  large : ∀ limit size, r = .error (.tooLarge limit size) ↔ max < body.length ∧ limit = max ∧ size = body.length
  /-- an empty body is none, whatever its type -/
  empty : r = .ok none ↔ body = []
  /-- a type that can be read and is not that of JSON is refused, whatever the body holds -/
  foreign : ∀ expected actual, r = .error (.mediaType expected actual) ↔
    body ≠ [] ∧ body.length ≤ max ∧ Foreign headers actual ∧ expected = "application/json"
  /-- what is left is one document, and the value of it -/
  document : ∀ v, r = .ok (some v) ↔
    body ≠ [] ∧ body.length ≤ max ∧ Admits headers ∧ Value.ofBytes body = .ok v
  malformed : ∀ part details, r = .error (.malformed part details) ↔ body ≠ [] ∧ body.length ≤ max ∧ Admits headers ∧
    ∃ f, Value.ofBytes body = .error f ∧ part = .body ∧ details = f.message body

section
variable {max : Nat} {headers : Headers} {body : Bytes}

theorem readBody_of_large (h : max < body.length) : readBody max headers body = .error (.tooLarge max body.length) :=
  if_pos h

theorem readBody_nil : readBody max headers [] = .ok none := by
  unfold readBody
  rw [List.length_nil, if_neg (Nat.not_lt_zero max)]
  rfl

section
variable (fits : body.length ≤ max) (nonempty : body ≠ [])
include fits nonempty

theorem readBody_of_foreign {contentType : String} (h : Foreign headers contentType) :
    readBody max headers body = .error (.mediaType "application/json" contentType) := by
  have hj : ¬ isJsonMediaType contentType = true := fun hj => h.2 (isJsonMediaType_iff.mp hj)
  unfold readBody
  rw [if_neg (Nat.not_lt.mpr fits), if_neg (by simpa using nonempty), h.1]
  exact if_neg hj

theorem readBody_of_admits (h : Admits headers) : readBody max headers body =
    ((Value.parse body).map some).mapError fun details => .malformed .body details := by
  unfold readBody
  rw [if_neg (Nat.not_lt.mpr fits), if_neg (by simpa using nonempty)]
  dsimp only
  cases ht : headers.text? "content-type" with
  | none => cases Value.parse body <;> rfl
  | some contentType =>
    have hj : NamesJson contentType := Decidable.byContradiction fun hn => admits_iff.mp h _ ⟨ht, hn⟩
    dsimp only
    rw [if_pos (isJsonMediaType_iff.mpr hj)]
    cases Value.parse body <;> rfl

theorem readBody_of_document (h : Admits headers) {v : Value} (hv : Value.ofBytes body = .ok v) :
    readBody max headers body = .ok (some v) := by
  rw [readBody_of_admits fits nonempty h, Value.parse, hv]
  rfl

theorem readBody_of_malformed (h : Admits headers) {f : Json.Fault} (hf : Value.ofBytes body = .error f) :
    readBody max headers body = .error (.malformed .body (f.message body)) := by
  rw [readBody_of_admits fits nonempty h, Value.parse, hf]
  rfl

end
end

/-- **What becomes of a body.**  Over its limit it is refused for its size, and an empty one is none; otherwise it is
refused if the first value for its type is a text other than a media type of JSON, and read as one document if it is one,
if there is none, or if it cannot be read as a text. -/
theorem readBody_decided (max : Nat) (headers : Headers) (body : Bytes) :
    BodyDecided max headers body (readBody max headers body) := by
  by_cases hl : max < body.length
  · have hne : body ≠ [] := List.ne_nil_of_length_pos (Nat.zero_lt_of_lt hl)
    have hfit : ¬ body.length ≤ max := Nat.not_le.mpr hl
    rw [readBody_of_large hl]
    constructor <;> simp [hl, hne, hfit, eq_comm]
  by_cases hne : body = []
  · subst hne
    rw [readBody_nil]
    constructor <;> simp
  have hfit : body.length ≤ max := Nat.not_lt.mp hl
  by_cases ha : Admits headers
  · have hforeign := admits_iff.mp ha
    cases hv : Value.ofBytes body with
    | ok v =>
      rw [readBody_of_document hfit hne ha hv]
      constructor <;> simp [hl, hne, hfit, ha, hforeign, hv]
    | error f =>
      rw [readBody_of_malformed hfit hne ha hv]
      constructor <;> simp [hl, hne, hfit, ha, hforeign, hv, eq_comm]
  · obtain ⟨contentType, hf⟩ : ∃ contentType, Foreign headers contentType :=
      Classical.not_forall_not.mp fun h => ha (admits_iff.mpr h)
    rw [readBody_of_foreign hfit hne hf]
    constructor
    case foreign =>
      intro expected actual
      constructor
      · intro h
        cases h
        exact ⟨hne, hfit, hf, rfl⟩
      · rintro ⟨-, -, hg, rfl⟩
        rw [Option.some.inj (hf.1.symm.trans hg.1)]
    all_goals simp [hl, hne, hfit, ha]

/-- a type with a letter outside of ASCII in a parameter, which is no media type of JSON, and the body is read -/
theorem unreadable_type_read :
    let headers : Headers := [("content-type", Utf8.ofText "text/plain; title=é")]
    ¬ NamesJson "text/plain; title=é" ∧ readBody 1048576 headers (Utf8.ofText "{}") = .ok (some (.object [])) :=
  ⟨by decide, rfl⟩

end RequestPipeline
