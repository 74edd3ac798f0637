import Snippet.Text.Lines

/-!
# Components

A React component around a piece of markup: a constant function that returns the markup, indented
by two spaces, and is the default export.
-/

namespace Snippet.Markup

def component (name parameters body : Text) : Text :=
  "import React from 'react';\n\nconst " ++ name ++ " = " ++ parameters ++ " => (\n" ++
    Text.indent "  " body ++ "\n);\n\nexport default " ++ name ++ ";"

end Snippet.Markup
