import AnalysisHarness.Url.Host

/-!
# Addresses

An address in parts, each of them in the form in which it is shown: nothing in it is left that
could be written differently without meaning something else.
-/

namespace AnalysisHarness

namespace Url

inductive Route where
  | steps (segments : List String)
  | verbatim (text : String)
  deriving DecidableEq, Repr

end Url

structure Url where
  scheme : String
  host : Option Url.Host
  /-- The port number, unless it is the usual one of the scheme. -/
  portNumber : Option Nat
  route : Url.Route
  query : Option String
  fragment : Option String
  deriving DecidableEq, Repr

namespace Url

def usualPorts : List (String × Option Nat) :=
  [("http", some 80), ("https", some 443), ("ws", some 80), ("wss", some 443), ("ftp", some 21),
    ("file", none)]

def isWebScheme (scheme : String) : Bool := usualPorts.any fun entry => entry.1 == scheme

def usualPort (scheme : String) : Option Nat :=
  (usualPorts.find? fun entry => entry.1 == scheme).bind Prod.snd

def writeAuthority (u : Url) : String :=
  match u.host with
  | none => ""
  | some host =>
      "//" ++ host.write ++
        (match u.portNumber with
        | none => ""
        | some portNumber => ":" ++ toString portNumber)

/-- The path; where there is no host it must not begin with two slashes. -/
def writeRoute (u : Url) : String :=
  match u.route with
  | .verbatim text => text
  | .steps segments =>
      let path := String.join (segments.map fun s => "/" ++ s)
      match u.host, segments with
      | none, "" :: _ :: _ => "/." ++ path
      | _, _ => path

def writePart (mark : String) : Option String -> String
  | none => ""
  | some part => mark ++ part

def write (u : Url) : String :=
  u.scheme ++ ":" ++ u.writeAuthority ++ u.writeRoute ++ writePart "?" u.query ++
    writePart "#" u.fragment

end Url
end AnalysisHarness
