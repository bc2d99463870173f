/-
The text of the component module.

The module is a script with markup: a preamble that imports what the components need and defines
two helpers, then every component, then every dispatcher, with a blank line between the
sections.  Each section is a list of lines.  Names and tags are written as they are; every other
text is written as a literal, so it stays within its line.
-/
import AmpComponents.Component
import AmpComponents.Json.Value
import AmpComponents.Text.Literal

namespace AmpComponents

open Text (literal)

/-- Lines as a text, each with its line end. -/
def renderLines (lines : List String) : String :=
  String.ofList (lines.flatMap fun line => line.toList ++ ['\n'])

theorem renderLines_append (a b : List String) :
    renderLines (a ++ b) = renderLines a ++ renderLines b := by
  simp [renderLines, List.flatMap_append]

/-! ## Preamble -/

def helperLines : List String :=
  ["// React does not transform `className` to `class` on Web Components",
   "// like `amp-*`. `specName` is only read by dispatcher components.",
   "// https://reactjs.org/docs/web-components.html#using-web-components-in-react",
   "const propsHelper = (props) => \x7b",
   "  const newProps = Object.assign(\x7b\x7d, props);",
   "",
   "  if ('specName' in newProps) \x7b",
   "    delete newProps.specName;",
   "  \x7d",
   "",
   "  if ('className' in newProps) \x7b",
   "    newProps.class = newProps.className;",
   "    delete newProps.className;",
   "  \x7d",
   "",
   "  return newProps;",
   "\x7d;",
   "",
   "const contextHelper = (\x7b context, extension \x7d) => \x7b",
   "  if (",
   "    typeof context === 'object'",
   "    && context !== null",
   "    && typeof context[CONTEXT_KEY] === 'object'",
   "    && context[CONTEXT_KEY] !== null",
   "    && typeof context[CONTEXT_KEY].addComponent === 'function'",
   "  ) \x7b",
   "    context[CONTEXT_KEY].addComponent(extension);",
   "  \x7d",
   "\x7d;"]

def preambleLines (contextModule : String) : List String :=
  ["import React from 'react';",
   "import PropTypes from 'prop-types';",
   "import \x7b CONTEXT_KEY \x7d from " ++ literal contextModule ++ ";",
   ""] ++ helperLines

/-! ## Components -/

/-- A component that registers extensions takes the context too. -/
def signature (extensions : List String) : String :=
  if extensions.isEmpty then "(props)" else "(props, context)"

def guardLine (extension : String) : String :=
  "  contextHelper(\x7b context, extension: " ++ literal extension ++ " \x7d);"

def renderLine (element : String) : String :=
  "  return <" ++ element ++ " \x7b...propsHelper(props)\x7d />;"

def propTypeLine (p : PropType) : String :=
  "  " ++ literal p.name ++ ": PropTypes.any" ++ (if p.required then ".isRequired" else "") ++ ","

def defaultPropLine (p : DefaultProp) : String :=
  "  " ++ literal p.name ++ ": " ++ literal p.value ++ ","

def propTypesLines (name : String) (props : List PropType) : List String :=
  if props.isEmpty then []
  else ["", name ++ ".propTypes = \x7b"] ++ props.map propTypeLine ++ ["\x7d;"]

def defaultPropsLines (name : String) (props : List DefaultProp) : List String :=
  if props.isEmpty then []
  else ["", name ++ ".defaultProps = \x7b"] ++ props.map defaultPropLine ++ ["\x7d;"]

def contextTypesLines (name : String) : List String :=
  ["",
   name ++ ".contextTypes = \x7b",
   "  [CONTEXT_KEY]: PropTypes.shape(\x7b",
   "    addComponent: PropTypes.func.isRequired,",
   "  \x7d),",
   "\x7d;"]

def exportLine (name : String) : String := "export \x7b " ++ name ++ " \x7d;"

def Component.lines (c : Component) : List String :=
  match c.kind with
  | .handwritten binding =>
    ["import " ++ binding.localName ++ " from " ++ literal binding.importSource ++ ";",
     "export const " ++ c.name ++ " = " ++ signature c.extensions ++ " => \x7b"]
      ++ c.extensions.map guardLine ++ [renderLine binding.localName, "\x7d;"]
  | .element tag =>
    ["const " ++ c.name ++ " = " ++ signature c.extensions ++ " => \x7b"]
      ++ c.extensions.map guardLine ++ [renderLine tag, "\x7d;"]
      ++ propTypesLines c.name c.propTypes
      ++ defaultPropsLines c.name c.defaultProps
      ++ contextTypesLines c.name
      ++ ["", exportLine c.name]

/-! ## Dispatchers -/

def variantLine (v : Variant) : String :=
  "  if (props.specName === " ++ literal v.specName ++ ") return <" ++ v.component
    ++ " \x7b...propsHelper(props)\x7d />;"

/-- The accepted names as a list of double-quoted strings. -/
def specNameList (names : List String) : String := (Json.Value.texts names).compact

def Dispatcher.lines (d : Dispatcher) : List String :=
  ["const " ++ d.name ++ " = (props) => \x7b"]
    ++ d.variants.map variantLine
    ++ ["  return null;",
        "\x7d;",
        "",
        d.name ++ ".propTypes = \x7b",
        "  specName: PropTypes.oneOf(" ++ specNameList d.specNames ++ ").isRequired,",
        "\x7d;",
        "",
        exportLine d.name]

/-! ## Modules -/

/-- Sections with a blank line between them. -/
def joinSections : List (List String) → List String
  | [] => []
  | [s] => s
  | s :: t :: rest => s ++ "" :: joinSections (t :: rest)

structure ComponentModule where
  contextModule : String
  components : List Component
  dispatchers : List Dispatcher
  deriving DecidableEq, Repr

namespace ComponentModule

def sections (m : ComponentModule) : List (List String) :=
  preambleLines m.contextModule :: m.components.map Component.lines
    ++ m.dispatchers.map Dispatcher.lines

def lines (m : ComponentModule) : List String := joinSections m.sections

def text (m : ComponentModule) : String := renderLines m.lines

/-- Every name the module exports, in the order of the text. -/
def exports (m : ComponentModule) : List String :=
  m.components.map (·.name) ++ m.dispatchers.map (·.name)

end ComponentModule
end AmpComponents
