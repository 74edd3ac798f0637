import Snippet.Proofs.Conversion.Failure
import Snippet.Proofs.Json.CompactText
import Snippet.Proofs.Text.PropertyKey

/-!
# Decoding quoted texts

Whoever gets an output reads a text in double quotation marks as a JSON string. Decoded in this way
every quoted text is the text it was made from, so a property name shows its key, be it bare or
quoted, and the default classes of a component are the configured ones.
-/

namespace Snippet

def Json.decodeString (t : Text) : Option Text :=
  match Json.read t with
  | .ok (.string s) => some s
  | _ => none

theorem Json.decodeString_quote (t : Text) : decodeString (Text.quote t) = some t := by
  have shallow : (Json.string t).height ≤ depthLimit := Nat.zero_le _
  cases readDocument_compact shallow with
  | inl accepted =>
    have read : Json.read (Text.quote t) = .ok (.string t) := by
      show (readDocument (compact (.string t))).mapError _ = _
      rw [accepted.2]
      rfl
    rw [decodeString, read]
  | inr refused =>
    -- No number stands in a string, so none is out of range.
    exact absurd (by simp [InRange, numbers]) refused.1

/-! ## Property names -/

namespace Text

/-- The key that a property name stands for: a text that starts with a quotation mark is decoded, and
any other one is the key itself. -/
def readPropertyName (name : Text) : Option Text :=
  if name.head? = some '"' then Json.decodeString name else some name

theorem readPropertyName_propertyKey (key : Text) :
    readPropertyName (propertyKey key) = some key := by
  cases propertyKey_cases key with
  | inl bare =>
    obtain ⟨identifier, written⟩ := bare
    -- A bare key is an identifier, which does not start with a mark.
    have unmarked : key.head? ≠ some '"' := by
      intro marked
      exact notMem_of_isIdentifier identifier (by decide) (List.mem_of_head? marked)
    rw [written, readPropertyName, if_neg unmarked]
  | inr quoted =>
    have marked : (quote key).head? = some '"' := rfl
    rw [quoted, readPropertyName, if_pos marked]
    exact Json.decodeString_quote key

end Text

/-! ## Default classes -/

namespace Markup.Svg

def classDefaultStart (name : Text) : Text :=
  "import React from 'react';\n\nconst " ++ name ++ " = " ++ "(\x7b className = "

/-- A component with default classes has them quoted behind its beginning, where they end its list
of parameters. -/
theorem exists_component_classParameter (name classes body : Text) :
    ∃ rest, component name (classParameter classes) body =
      classDefaultStart name ++ (Text.quote classes ++ (" \x7d)" ++ rest)) := by
  have parts (a n b p q r c m d e : Text) : a ++ n ++ b ++ (p ++ q ++ r) ++ c ++ m ++ d ++ n ++ e =
      a ++ n ++ b ++ p ++ (q ++ (r ++ (c ++ m ++ d ++ n ++ e))) := by
    simp only [List.append_assoc]
  exact ⟨_, parts ..⟩

theorem exists_run_svgTailwind (config : Config) {input : Text} (drawing : openingTag <:+: input) :
    ∃ rest, Conversion.svgTailwind.run config input =
      .ok (classDefaultStart config.componentName ++
        (Text.quote config.tailwindClass ++ (" \x7d)" ++ rest))) := by
  cases found : ofText? input with
  | none => exact absurd drawing (drawing_eq_none_iff.1 found)
  | some svg =>
    obtain ⟨rest, written⟩ := exists_component_classParameter config.componentName
      config.tailwindClass (styleByClass svg)
    refine ⟨rest, ?_⟩
    rw [Conversion.run, toStyledComponent?, found, ← written]
    rfl

end Markup.Svg

/-- A property name shows its key, so different keys have different names. A drawing becomes a
component in which the text behind `className =` is the JSON text of the configured classes. -/
theorem keys_and_classes_decoded :
    (∀ key, Text.readPropertyName (Text.propertyKey key) = some key) ∧
      Function.Injective Text.propertyKey ∧
      ∀ (config : Config) (input : Text), Markup.Svg.openingTag <:+: input →
        ∃ literal rest,
          Conversion.svgTailwind.run config input =
            .ok (Markup.Svg.classDefaultStart config.componentName ++
              (literal ++ (" \x7d)" ++ rest))) ∧
          Json.decodeString literal = some config.tailwindClass := by
  refine ⟨Text.readPropertyName_propertyKey, Text.propertyKey_injective, ?_⟩
  intro config input drawing
  obtain ⟨rest, written⟩ := Markup.Svg.exists_run_svgTailwind config drawing
  exact ⟨Text.quote config.tailwindClass, rest, written, Json.decodeString_quote _⟩

/-- A key and classes in which every kind of escape is needed. -/
theorem escaped_key_and_classes_decoded :
    let odd : Text := "\"a\\\n\x01\u20ac'"
    let config : Config := { tailwindClass := odd }
    let input : Text := "<svg/>"
    Text.propertyKey odd = "\"\\\"a\\\\\\n\\u0001\u20ac'\"".toList ∧
      Text.readPropertyName (Text.propertyKey odd) = some odd ∧
      Markup.Svg.openingTag <:+: input ∧
      ∃ literal rest,
        Conversion.svgTailwind.run config input =
          .ok (Markup.Svg.classDefaultStart "SvgComponent" ++ (literal ++ (" \x7d)" ++ rest))) ∧
        Json.decodeString literal = some odd := by
  intro odd config input
  have drawing : Markup.Svg.openingTag <:+: input :=
    Text.contains_iff_infix.1 (by decide +kernel)
  obtain ⟨keys, _, classes⟩ := keys_and_classes_decoded
  exact ⟨by decide +kernel, keys odd, drawing, classes config input drawing⟩

end Snippet
