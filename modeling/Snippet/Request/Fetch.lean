import Snippet.Text.Pattern
import Snippet.Text.Quoted

/-!
# Requests

A request on a command line as a call of `fetch`. Of the command only the address is kept, which is
taken to be its first quoted token; the call always asks for JSON.
-/

namespace Snippet.Request

def firstQuoted (command : Text) : Option Text :=
  (Text.Pattern.quotation.find command).map (·.found)

def fetchCall (url : Text) : Text :=
  "fetch(" ++ Text.quoteSingle url ++ ", \x7b\n" ++
    "  method: 'GET',\n" ++
    "  headers: \x7b\n" ++
    "    'Content-Type': 'application/json'\n" ++
    "  \x7d\n" ++
    "\x7d)\n" ++
    "  .then(response => response.json())\n" ++
    "  .then(data => console.log(data))\n" ++
    "  .catch(error => console.error('Error:', error));"

/-- A command line as a call of `fetch`, with a placeholder for an address that is not quoted. -/
def toFetch (placeholder command : Text) : Text :=
  fetchCall ((firstQuoted command).getD placeholder)

end Snippet.Request
