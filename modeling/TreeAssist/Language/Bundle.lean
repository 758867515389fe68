import TreeAssist.Language.Python
import TreeAssist.Settings.Reader

/-!
# Languages

All that an editor needs for one language, and the notices that are given along the way.

* `Language` — the tables of a language under some settings.
* `Notice` — something worth recording: a table was built, a language was loaded, an indentation was
  decided on.
-/

namespace TreeAssist

/-- Something worth recording. -/
inductive Notice where
  /-- An indentation was decided on. -/
  | indented (r : Decision)
  /-- A style table was built from so many alternatives for so many kinds. -/
  | styleTableBuilt (rules kinds : Nat)
  /-- The tables of a language were put together. -/
  | languageLoaded (language : String) (indentRules styleKinds foldRules : Nat)
  /-- The notation for lines to be indented again is no pattern. -/
  | invalidPattern (language pattern : String)
deriving DecidableEq

/-- The notice that a style table was built. -/
def StyleTable.notice (t : StyleTable) : Notice :=
  .styleTableBuilt t.rules.length t.targets.length

/-- The notice due when metadata is made with the given notation. -/
def Metadata.notices (language : String) (reindent : Option String) : List Notice :=
  (reindent.filter fun source => (Pattern.parse? source).isNone).toList.map
    (.invalidPattern language)

/-- The tables of one language under some settings. -/
structure Language where
  /-- What is known without a tree. -/
  metadata : Metadata
  /-- The settings. -/
  settings : Settings
  /-- Indentation. -/
  indenter : Indenter
  /-- Styles. -/
  styles : StyleTable
  /-- Folding. -/
  folds : FoldTable

/-- The notices due when the tables are put together. -/
def Language.notices (l : Language) : List Notice :=
  [l.styles.notice,
    .languageLoaded l.metadata.name l.indenter.styles.size l.styles.targets.length l.folds.size]

/-- The tables of Python under the given settings. -/
def Python.language (s : Settings) : Language where
  metadata := Python.metadata
  settings := s
  indenter := Python.indenter s
  styles := Python.styles
  folds := Python.folds

end TreeAssist
