import HttpBench.Http.Request
import HttpBench.Proofs.Http.Fields
import HttpBench.Proofs.Run.Plans

/-!
# The header of a request

The header of a request begins with a `host` of its own. What a run is given as header fields comes behind that, in its
order and as often as it is given, and `connection: close` is added last (`RunSettings.header_of_validate`). Nothing is
replaced: a run that names its host has two of that field, its own behind the one of the target
(`RunSettings.host_twice`), and only where no field is called so, in whatever case of letters, there is one.

Sending changes the fields that frame a body, and for an old peer `connection`. All others are sent as they are
(`Target.values_sentHeader`).
-/

namespace HttpBench

open Framing WrittenRequest

theorem Header.toLower_host : "host".toLower = "host" := by decide +kernel

theorem Header.toLower_connection : "connection".toLower = "connection" := by decide +kernel

/-! ## Framing -/

namespace WrittenRequest

variable {fields : FieldTable FieldBytes} {n : String}

theorem values_chunked (h : fields.names.Nodup) (hhas : fields.has "transfer-encoding" = true)
    (hlength : n ≠ "content-length") (hcoding : n ≠ "transfer-encoding") (body : List UInt8) :
    (chunked fields body).1.values n = fields.values n := by
  unfold chunked
  dsimp only
  split
  next => rw [FieldTable.values_remove h, if_neg hlength]
  next =>
    rw [FieldTable.values_remove (by rwa [FieldTable.names_change]), if_neg hlength,
      FieldTable.values_change hhas, if_neg hcoding]

/-- **To frame a body** changes its length and its coding, and no other field. -/
theorem values_frame (h : fields.names.Nodup) (hlength : n ≠ "content-length") (hcoding : n ≠ "transfer-encoding")
    (old : Bool) (body : List UInt8) : (frame old fields body).1.values n = fields.values n := by
  have hremoved : (fields.remove "transfer-encoding").values n = fields.values n := by
    rw [FieldTable.values_remove h, if_neg hcoding]
  unfold frame
  split
  next => exact hremoved
  next =>
    split
    next hchunked =>
      exact values_chunked h (Bool.and_eq_true_iff.mp hchunked).1 hlength hcoding body
    next =>
      dsimp only
      split
      next => exact hremoved
      next =>
        rw [measured, FieldTable.values_set, if_neg hlength]
        exact hremoved

theorem values_askToStay (hconnection : n ≠ "connection") : (askToStay fields).values n = fields.values n := by
  unfold askToStay
  split
  next => rfl
  next => rw [FieldTable.values_add, Header.toLower_connection, if_neg hconnection.symm]

theorem nodup_names_askToStay (h : fields.names.Nodup) : (askToStay fields).names.Nodup := by
  unfold askToStay
  split
  next => exact h
  next => exact FieldTable.nodup_names_add h _ _

end WrittenRequest

/-! ## Targets -/

namespace Target

/-- **The header of a request**, before what frames its body. -/
def requestHeader (t : Target) : FieldTable FieldBytes := .ofList (t.requestFields.map fun f => (f.1, bytesOf f.2))

/-- **The header as it is sent** to a peer of version 1.0 or a newer one. -/
def sentHeader (t : Target) (old : Bool) : FieldTable FieldBytes :=
  (frame old (if old then askToStay t.requestHeader else t.requestHeader) (t.body.getD [])).1

/-- The line that a request begins with. -/
def requestLine (t : Target) (old : Bool) : List UInt8 :=
  bytesOf (t.method.name ++ " " ++ t.url.pathAndQuery ++ if old then " HTTP/1.0\r\n" else " HTTP/1.1\r\n")

/-- A header, one line for each field. -/
def headerLines (fields : FieldTable FieldBytes) : List UInt8 :=
  fields.toList.flatMap fun f => bytesOf (f.1 ++ ": ") ++ f.2 ++ bytesOf "\r\n"

/-- **What is written of a request** is its line, its header and a body. -/
theorem exists_bytes_ofTarget (t : Target) (old : Bool) : ∃ body,
    (ofTarget t old).bytes = t.requestLine old ++ headerLines (t.sentHeader old) ++ bytesOf "\r\n" ++ body :=
  ⟨_, rfl⟩

/-- **What is sent of a field** is what the request has of it, but for what frames the body and what keeps the
connection to an old peer. -/
theorem values_sentHeader (t : Target) (old : Bool) {n : String} (hlength : n ≠ "content-length")
    (hcoding : n ≠ "transfer-encoding") (hconnection : n ≠ "connection") :
    (t.sentHeader old).values n = t.requestHeader.values n := by
  have hnodup : t.requestHeader.names.Nodup := FieldTable.nodup_names_ofList _
  unfold sentHeader
  cases old
  · exact values_frame hnodup hlength hcoding false _
  · exact (values_frame (nodup_names_askToStay hnodup) hlength hcoding true _).trans (values_askToStay hconnection)

/-- The values that some fields have for a name, in any case of letters. -/
def valuesFor (name : String) (fields : List (String × String)) : List String :=
  (fields.filter fun f => Header.sameName f.1 name).map (·.2)

theorem valuesFor_append (name : String) (fields fields' : List (String × String)) :
    valuesFor name (fields ++ fields') = valuesFor name fields ++ valuesFor name fields' := by
  simp [valuesFor]

theorem valuesFor_singleton (name other value : String) :
    valuesFor name [(other, value)] = if Header.sameName name other then [value] else [] := by
  by_cases h : name.toLower = other.toLower
  · simp [valuesFor, Header.sameName, h]
  · simp [valuesFor, Header.sameName, h, Ne.symm h]

theorem valuesFor_eq_nil {name : String} {fields : List (String × String)} :
    valuesFor name fields = [] ↔ ∀ f ∈ fields, ¬Header.sameName f.1 name = true := by
  simp [valuesFor]

/-- **The values of a name** are the target's between those that every request has. -/
theorem values_requestHeader (t : Target) (name : String) : t.requestHeader.values name.toLower =
    ((if Header.sameName name "host" then [t.url.authority] else []) ++ valuesFor name t.headers ++
      if Header.sameName name "connection" && !t.keepAlive then ["close"] else []).map bytesOf := by
  have hvalues : t.requestHeader.values name.toLower = (valuesFor name t.requestFields).map bytesOf := by
    rw [requestHeader, FieldTable.values_ofList]
    simp [valuesFor, Header.sameName, List.filter_map, Function.comp_def, beq_eq_decide]
  have hlast : valuesFor name (if t.keepAlive then [] else [("connection", "close")]) =
      if Header.sameName name "connection" && !t.keepAlive then ["close"] else [] := by
    cases t.keepAlive
    · simpa using valuesFor_singleton name "connection" "close"
    · simp [valuesFor]
  rw [hvalues, requestFields, valuesFor_append, hlast, ← List.singleton_append, valuesFor_append,
    valuesFor_singleton]

theorem names_requestHeader (t : Target) : t.requestHeader.names =
    ("host" :: t.headers.map (·.1.toLower) ++ if t.keepAlive then [] else ["connection"]).eraseDups := by
  rw [requestHeader, FieldTable.names_ofList, List.map_map, requestFields, List.map_append, List.map_cons]
  cases t.keepAlive <;> simp [Function.comp_def, Header.toLower_host, Header.toLower_connection]

end Target

/-! ## Runs -/

namespace RunSettings

open Target

variable {s : RunSettings} {plan : RunPlan}

/-- **The header of every checked run**, whatever fields it is given. There is a `host` of the target in front, and
behind it every field that the run names so. Every other name has the values that the run gives it, in their order, and
`connection` one more, `close`, unless the connection may be kept. The names stand in the order in which they come
first. So there is one `host` exactly if the run names none. This header is what is written to the wire, but for the
fields that frame the body and for the `connection` that an old peer is asked to keep. -/
theorem header_of_validate (h : s.validate = .ok plan) :
    let header := plan.target.requestHeader
    header.values "host" = (plan.target.url.authority :: valuesFor "host" s.headers).map bytesOf ∧
      ((header.values "host").length = 1 ↔ ∀ f ∈ s.headers, ¬Header.sameName f.1 "host" = true) ∧
      (∀ name, ¬Header.sameName name "host" = true → header.values name.toLower = (valuesFor name s.headers ++
        if Header.sameName name "connection" && !s.keepAlive then ["close"] else []).map bytesOf) ∧
      header.names =
        ("host" :: s.headers.map (·.1.toLower) ++ if s.keepAlive then [] else ["connection"]).eraseDups ∧
      ∀ old, (∀ name, name ≠ "content-length" → name ≠ "transfer-encoding" → name ≠ "connection" →
          (plan.target.sentHeader old).values name = header.values name) ∧
        ∃ body, (ofTarget plan.target old).bytes =
          plan.target.requestLine old ++ headerLines (plan.target.sentHeader old) ++ bytesOf "\r\n" ++ body := by
  intro header
  obtain ⟨hheaders, hkeepAlive⟩ := target_of_validate h
  have hhost : header.values "host" = (plan.target.url.authority :: valuesFor "host" s.headers).map bytesOf := by
    have hvalues := values_requestHeader plan.target "host"
    have hsame : Header.sameName "host" "connection" = false := by decide +kernel
    rw [Header.toLower_host, hheaders, hsame, Bool.false_and, Header.sameName, beq_self_eq_true] at hvalues
    simpa using hvalues
  refine ⟨hhost, ?_, fun name hname => ?_, ?_, fun old => ?_⟩
  · rw [hhost, ← valuesFor_eq_nil, List.length_map, List.length_cons, Nat.add_eq_right, List.length_eq_zero_iff]
  · rw [values_requestHeader, if_neg hname, hheaders, hkeepAlive, List.nil_append]
  · rw [names_requestHeader, hheaders, hkeepAlive]
  · exact ⟨fun _ => values_sentHeader _ old, exists_bytes_ofTarget _ old⟩

/-- A run that names a header twice, in two cases of letters, and does not keep its connections: one `host`, that of
the target, and both values in their order. -/
theorem header_of_validate_of_two :
    let s : RunSettings := { url := "http://a/", headers := [("Trace", "1"), ("trace", "2")], keepAlive := false }
    ∃ plan, s.validate = .ok plan ∧
      plan.target.requestHeader.values "host" = [bytesOf plan.target.url.authority] ∧
      plan.target.requestHeader.values "TRACE".toLower = ["1", "2"].map bytesOf ∧
      plan.target.requestHeader.names = ["host", "trace", "connection"] ∧
      (plan.target.sentHeader true).values "host" = [bytesOf plan.target.url.authority] := by
  intro s
  have hok : s.validate.isOk = true := by decide +kernel
  have hfolded : "Trace".toLower = "trace" ∧ "trace".toLower = "trace" ∧ "TRACE".toLower = "trace" := by decide +kernel
  have hother : valuesFor "host" s.headers = [] := by
    simp [s, valuesFor, Header.sameName, hfolded, Header.toLower_host]
  cases hplan : s.validate with
  | error e =>
    rw [hplan] at hok
    cases hok
  | ok plan =>
    obtain ⟨hhost, _, hvalues, hnames, hsent⟩ := header_of_validate hplan
    rw [hother] at hhost
    refine ⟨plan, rfl, hhost, ?_, ?_, ((hsent true).1 _ (by decide) (by decide) (by decide)).trans hhost⟩
    · rw [hvalues "TRACE" (by simp [Header.sameName, hfolded, Header.toLower_host])]
      simp [s, valuesFor, Header.sameName, hfolded, Header.toLower_connection]
    · rw [hnames]
      simp [s, hfolded, List.eraseDups_cons]

/-- **A run that names its host sends two.** Its own stands behind that of the target. -/
theorem host_twice :
    ∃ plan, ({ url := "http://a/", headers := [("host", "b")] } : RunSettings).validate = .ok plan ∧
      plan.target.requestHeader.values "host" = ["a", "b"].map bytesOf ∧
      (ofTarget plan.target false).bytes = bytesOf "GET / HTTP/1.1\r\nhost: a\r\nhost: b\r\n\r\n" := by
  have hrun : (match ({ url := "http://a/", headers := [("host", "b")] } : RunSettings).validate with
      | .ok plan => decide (plan.target.requestHeader.values "host" = ["a", "b"].map bytesOf ∧
        (ofTarget plan.target false).bytes = bytesOf "GET / HTTP/1.1\r\nhost: a\r\nhost: b\r\n\r\n")
      | .error _ => false) = true := by decide +kernel
  split at hrun
  next plan hplan => exact ⟨plan, hplan, of_decide_eq_true hrun⟩
  next => cases hrun

end RunSettings

end HttpBench
