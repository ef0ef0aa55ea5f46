import AnalysisHarness.Failure
import AnalysisHarness.Url.Reader

/-!
# Requests that nothing answers

Where there is no network every request fails, and the address that was asked for decides how: some
texts are no addresses, some addresses cannot be asked over the web, and the others are asked in
vain.
-/

namespace AnalysisHarness
namespace Url

def isHttp (u : Url) : Bool := u.scheme == "http" || u.scheme == "https"

def lengthLimit : Nat := 65535

def unsendable : List Char := ['"', '\x60', '\x7b', '\x7d']

def isSendableHost : Host -> Bool
  | .name text => text.toList.all fun c => !unsendable.contains c
  | _ => true

def isAskable (u : Url) : Bool :=
  u.isHttp && (u.host.map isSendableHost).getD false && decide (u.write.utf8ByteSize < lengthLimit)

/-- Why a request fails that nothing answers. -/
def unanswered (text : String) : Failure :=
  match read text with
  | none => .http "builder error"
  | some u =>
      if u.isAskable then .http ("error sending request for url (" ++ u.write ++ ")")
      else .http ("builder error for url (" ++ u.write ++ ")")

end Url
end AnalysisHarness
