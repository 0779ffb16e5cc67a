import DflockdClient.Commands

/-!
The `stats` command: its request and the decoder of its answer, over what
`json.loads` makes of a text.
-/

namespace DflockdClient

/-- The values of `json.loads`. A dict has no key twice; a float is its bit pattern. -/
inductive Json
  | null
  | bool (value : Bool)
  | int (value : Int)
  | float (bits : Nat)
  | str (value : Str)
  | list (values : List Json)
  | dict (entries : List (Str × Json))

namespace Json

def isDict (value : Json) : Bool :=
  match value with
  | dict _ => true
  | _ => false

end Json

def statsRequest : Request := ⟨str "stats", str "_", str "_", ioSlackS⟩

def statsListFields : List Str :=
  [str "locks", str "semaphores", str "idle_locks", str "idle_semaphores"]

def badStats (payload : Str) : PyError :=
  runtimeError [.text (str "bad stats response: "), .repr payload]

def isDictList (values : Option Json) : Bool :=
  match values with
  | some (.list values) => values.all Json.isDict
  | _ => false

def validateStatsResult (decoded : Json) (payload : Str) : Except PyError (List (Str × Json)) :=
  match decoded with
  | .dict entries =>
      match entries.lookup (str "connections") with
      | some (.int connections) =>
          if connections < 0 then .error (badStats payload)
          else if statsListFields.all fun field => isDictList (entries.lookup field) then .ok entries
          else .error (badStats payload)
      | _ => .error (badStats payload)
  | _ => .error (badStats payload)

section

variable (loads : Str → Except PyError Json)

def decodeStatsJson (payload : Str) : Except PyError (List (Str × Json)) :=
  match loads payload with
  | .ok decoded => validateStatsResult decoded payload
  | .error error =>
      if error.cls.isSubclass .jsonDecodeError then .error (badStats payload) else .error error

def parseStatsResponse (resp : Str) : Except PyError (List (Str × Json)) :=
  if !startswith resp (str "ok ") then .error (statusError (str "stats") resp)
  else decodeStatsJson loads (resp.drop 3)

end

end DflockdClient
