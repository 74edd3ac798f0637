import Snippet.Text.Basic

/-!
# Conversions

The conversions there are, each with its identifier, its label, the languages that it reads and
writes, and the category under which a menu lists it. Some conversions have no logic of their own
yet and pass their input through.

`ofId?_id` says that an identifier belongs to one conversion only.
-/

namespace Snippet

/-- A group of conversions that read the same kind of text. -/
inductive Category where
  | svg
  | html
  | css
  | json
  | network
  deriving DecidableEq, Repr

namespace Category

/-- The categories in the order of the menu. -/
def all : List Category :=
  [svg, html, css, json, network]

def name : Category → Text
  | svg => "SVG"
  | html => "HTML"
  | css => "CSS"
  | json => "JSON"
  | network => "NETWORK"

end Category

/-- How a conversion makes its output. -/
inductive Logic where
  /-- By a transformation of its own. -/
  | function
  /-- By passing its input through under a comment. -/
  | passthrough
  deriving DecidableEq, Repr

inductive Conversion where
  | svgReact
  | svgTailwind
  | htmlJsx
  | htmlPug
  | cssObject
  | cssTailwind
  | typescript
  | zod
  | typebox
  | mongoose
  | sql
  | jsonGo
  | curlFetch
  | curlAxios
  deriving DecidableEq, Repr

namespace Conversion

/-- The conversions in the order of the menu. -/
def all : List Conversion :=
  [svgReact, svgTailwind, htmlJsx, htmlPug, cssObject, cssTailwind, typescript, zod, typebox,
   mongoose, sql, jsonGo, curlFetch, curlAxios]

def id : Conversion → Text
  | svgReact => "svg_react"
  | svgTailwind => "svg_tailwind"
  | htmlJsx => "html_jsx"
  | htmlPug => "html_pug"
  | cssObject => "css_obj"
  | cssTailwind => "css_tailwind"
  | typescript => "typescript"
  | zod => "zod"
  | typebox => "typebox"
  | mongoose => "mongoose"
  | sql => "sql"
  | jsonGo => "json_go"
  | curlFetch => "curl_fetch"
  | curlAxios => "curl_axios"

def category : Conversion → Category
  | svgReact | svgTailwind => .svg
  | htmlJsx | htmlPug => .html
  | cssObject | cssTailwind => .css
  | typescript | zod | typebox | mongoose | sql | jsonGo => .json
  | curlFetch | curlAxios => .network

def label : Conversion → Text
  | svgReact => "SVG to React Component"
  | svgTailwind => "SVG to React + Tailwind"
  | htmlJsx => "HTML to JSX"
  | htmlPug => "HTML to Pug"
  | cssObject => "CSS to JS Object"
  | cssTailwind => "CSS to Tailwind Classes"
  | typescript => "JSON to TypeScript"
  | zod => "JSON to Zod Schema"
  | typebox => "JSON to TypeBox"
  | mongoose => "JSON to Mongoose Schema"
  | sql => "JSON to SQL Schema"
  | jsonGo => "JSON to Go Struct"
  | curlFetch => "cURL to Fetch"
  | curlAxios => "cURL to Axios"

/-- The language of the input, as an editor names it. -/
def sourceLanguage : Conversion → Text
  | svgReact | svgTailwind => "xml"
  | htmlJsx | htmlPug => "html"
  | cssObject | cssTailwind => "css"
  | typescript | zod | typebox | mongoose | sql | jsonGo => "json"
  | curlFetch | curlAxios => "shell"

def targetLanguage : Conversion → Text
  | svgReact | svgTailwind | htmlJsx | cssObject | mongoose | curlFetch | curlAxios => "javascript"
  | htmlPug => "pug"
  | cssTailwind => "plaintext"
  | typescript | zod | typebox => "typescript"
  | sql => "sql"
  | jsonGo => "go"

def logic : Conversion → Logic
  | htmlPug | jsonGo | curlAxios => .passthrough
  | _ => .function

def ofId? (id : Text) : Option Conversion :=
  all.find? (·.id = id)

/-- The conversion that stands in for an identifier that is no longer known. -/
def default : Conversion := svgReact

def ofIdOrDefault (id : Text) : Conversion :=
  (ofId? id).getD default

theorem mem_all (c : Conversion) : c ∈ all := by
  cases c <;> decide

theorem ofId?_id (c : Conversion) : ofId? c.id = some c := by
  cases c <;> decide

end Conversion

end Snippet
