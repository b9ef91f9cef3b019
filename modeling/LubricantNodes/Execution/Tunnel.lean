import LubricantNodes.Go.Utf8

/-!
# Tunnelled responses

The node relays the response of a local service, or of an outbound request, as frames.
The first frame has the status and the headers, and the results of reading the body
decide how many follow.
-/

namespace LubricantNodes.Execution

open Go List

/-- Why a body ends; an error has a text. -/
inductive BodyEnd
  | eof
  | failed (text : String) (told : text ≠ "")

/-- The error that the last frame reports. -/
def BodyEnd.error : BodyEnd → String
  | eof => ""
  | failed text _ => text

/-- `NodeTunnelResponse`. -/
structure TunnelResponse where
  tunnelId : String
  status : Int := 0
  headers : List (String × String) := []
  body : Bytes := []
  done : Bool := false
  error : String := ""

/-- The results of `Read`: some without an end, and then the end, again and again. -/
def bodyResults (chunks : List Bytes) (last : Bytes) (ending : BodyEnd) (more : Nat) :
    List (Bytes × Option BodyEnd) :=
  chunks.map (·, none) ++ (last, some ending) :: replicate (more + 1) ([], some ending)

section Relay

variable (tunnelId : String)

/-- The loop over the results. -/
def relayRest : List (Bytes × Option BodyEnd) → List TunnelResponse
  | [] => []
  | (data, readErr) :: results =>
    if data ≠ [] then
      match readErr with
      | some .eof => [{ tunnelId, body := data, done := true }]
      | _ => { tunnelId, body := data } :: relayRest results
    else
      match readErr with
      | some ending => [{ tunnelId, done := true, error := ending.error }]
      | none => relayRest results

/-- The frames of a response. -/
def relay (status : Int) (headers : List (String × String)) :
    List (Bytes × Option BodyEnd) → List TunnelResponse
  | [] => []
  | (data, readErr) :: results =>
    match readErr with
    | some .eof => [{ tunnelId, status, headers, body := data, done := true }]
    | _ => { tunnelId, status, headers, body := data } :: relayRest tunnelId results

/-- `handleTunnel`, from the response on. -/
def handleTunnel := relay tunnelId

/-- `handleProxy`, from the response on. -/
def handleProxy := relay tunnelId

end Relay

/-- Frames with a content, of which exactly the last is marked as done. -/
structure Closes (ending : BodyEnd) (content : Bytes) (frames : List TunnelResponse) : Prop where
  content : frames.flatMap TunnelResponse.body = content
  marks : ∃ count, frames.map (fun frame => (frame.done, frame.error)) =
    replicate count (false, "") ++ [(true, ending.error)]

variable {tunnelId : String} {ending : BodyEnd} {content : Bytes} {frames : List TunnelResponse}

theorem Closes.cons (closes : Closes ending content frames) (tunnelId : String) (status : Int)
    (headers : List (String × String)) (body : Bytes) :
    Closes ending (body ++ content) ({ tunnelId, status, headers, body } :: frames) := by
  obtain ⟨count, marks⟩ := closes.marks
  exact ⟨by simp [closes.content], count + 1, by simp [marks, replicate_succ]⟩

/-- The loop relays all that is read, without a status. -/
theorem relayRest_spec (chunks : List Bytes) (last : Bytes) (more : Nat) :
    Closes ending (chunks.flatten ++ last)
        (relayRest tunnelId (bodyResults chunks last ending more)) ∧
      ∀ frame ∈ relayRest tunnelId (bodyResults chunks last ending more),
        frame.status = 0 ∧ frame.headers = [] := by
  have closing : Closes ending [] [{ tunnelId, done := true, error := ending.error }] :=
    ⟨rfl, 0, rfl⟩
  induction chunks with
  | nil =>
    by_cases empty : last = []
    · subst empty
      exact ⟨closing, by simp [bodyResults, relayRest]⟩
    · cases ending with
      | eof =>
        simp only [bodyResults, relayRest, if_pos empty, map_nil, nil_append]
        exact ⟨⟨by simp, 0, rfl⟩, by simp⟩
      | failed =>
        simp only [bodyResults, relayRest, if_pos empty, replicate_succ, map_nil, nil_append]
        exact ⟨by simpa using closing.cons tunnelId 0 [] last, by simp⟩
  | cons chunk chunks ih =>
    by_cases empty : chunk = []
    · subst empty
      exact ih
    · have frames : relayRest tunnelId (bodyResults (chunk :: chunks) last ending more) =
          { tunnelId, body := chunk } ::
            relayRest tunnelId (bodyResults chunks last ending more) := by
        simp [bodyResults, relayRest, empty]
      rw [frames, flatten_cons, append_assoc]
      exact ⟨ih.1.cons tunnelId 0 [] chunk, by simpa using ih.2⟩

/-- Both handlers relay a body completely, the first frame alone has the status and the
headers, and exactly the last is done, with an error if the body did not end. -/
theorem relay_spec (status : Int) (headers : List (String × String)) (chunks : List Bytes)
    (last : Bytes) (more : Nat) :
    handleProxy tunnelId = handleTunnel tunnelId ∧ Closes ending (chunks.flatten ++ last)
        (handleTunnel tunnelId status headers (bodyResults chunks last ending more)) ∧
      (ending.error ≠ "" ↔ ending ≠ .eof) ∧
      ∃ first rest, handleTunnel tunnelId status headers (bodyResults chunks last ending more) =
        first :: rest ∧ first.status = status ∧ first.headers = headers ∧
          ∀ frame ∈ rest, frame.status = 0 ∧ frame.headers = [] := by
  have told : ending.error ≠ "" ↔ ending ≠ .eof := by
    cases ending with
    | eof => simp [BodyEnd.error]
    | failed text told => simpa [BodyEnd.error] using told
  cases chunks with
  | nil =>
    cases ending with
    | eof => exact ⟨rfl, ⟨append_nil _, 0, rfl⟩, told, _, [], rfl, rfl, rfl, by simp⟩
    | failed text some =>
      have rest := @relayRest_spec tunnelId (.failed text some) [] [] more
      have closes := rest.1.cons tunnelId status headers last
      rw [flatten_nil, append_nil, append_nil] at closes
      exact ⟨rfl, closes, told, _, _, rfl, rfl, rfl, rest.2⟩
  | cons chunk chunks =>
    have rest := @relayRest_spec tunnelId ending chunks last more
    refine ⟨rfl, ?_, told, _, _, rfl, rfl, rfl, rest.2⟩
    rw [flatten_cons, append_assoc]
    exact rest.1.cons tunnelId status headers chunk

end LubricantNodes.Execution
