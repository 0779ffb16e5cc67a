import DflockdClient.Protocol

/-! `sharding.py`: server endpoints and the choice of a server for a key. -/

namespace DflockdClient

def maxTcpPort : Int := 65535

def validateServerEndpoint (host : Str) (port : Value) : Except PyError (Str × Int) :=
  if host == [] then .error (valueError [.text (str "server host must not be empty")])
  else if hasWhitespace host then
    .error (valueError [.text (str "server host must not contain whitespace")])
  else match port with
    | .int port =>
        if 0 < port ∧ port ≤ maxTcpPort then .ok (host, port)
        else .error (valueError [.text (str "server port must be between 1 and 65535")])
    | _ => .error (typeError [.text (str "server port must be an integer")])

def validateServers (servers : List (Str × Value)) : Except PyError Unit :=
  if servers.isEmpty then
    .error (valueError [.text (str "servers must be a non-empty list or tuple")])
  else servers.forM fun (host, port) => do
    discard (validateServerEndpoint host port)

def validateShardIndex (index : Value) (numServers : Nat) : Except PyError Nat :=
  match index with
  | .int index =>
      if 0 ≤ index ∧ index < numServers then .ok index.toNat
      else .error ⟨.indexError, [.text (str "sharding_strategy returned index "),
        .text ((decimal index).getD []), .text (str ", but there are "),
        .text (decimalNat numServers), .text (str " servers")]⟩
  | _ => .error (typeError [.text (str "sharding_strategy must return an integer index")])

end DflockdClient
