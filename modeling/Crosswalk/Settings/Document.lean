import Crosswalk.Settings
import Crosswalk.Document

/-!
# Settings as documents

Settings are read alike from every notation. Each choice may be left out, and so
may each group of choices; what is left out stands at its default. A document
may hold anything else besides.
-/

namespace Crosswalk

variable {ν : Type} [Document ν]

/-- The marker settings that a value describes. -/
def MarkerSettings.ofDocument? (v : ν) : Option MarkerSettings := do
  let fields ← Document.fields? ["package"] v
  let stock : MarkerSettings := {}
  return { package := ← fields.withDefault "package" stock.package Document.text? }

/-- The binding settings that a value describes. -/
def BindingSettings.ofDocument? (v : ν) : Option BindingSettings := do
  let fields ← Document.fields? ["source", "destination"] v
  let stock : BindingSettings := {}
  return {
    source := ← fields.withDefault "source" stock.source Document.text?
    destination := ← fields.withDefault "destination" stock.destination Document.text?
  }

/-- The output settings that a value describes. -/
def OutputSettings.ofDocument? (v : ν) : Option OutputSettings := do
  let fields ← Document.fields? ["suffix", "build_tag", "header"] v
  let stock : OutputSettings := {}
  return {
    suffix := ← fields.withDefault "suffix" stock.suffix Document.text?
    buildTag := ← fields.withDefault "build_tag" stock.buildTag Document.text?
    header := ← fields.withDefault "header" stock.header (Document.list? Document.text?)
  }

/-- **The settings that a value describes.** -/
def Settings.ofDocument? (v : ν) : Option Settings := do
  let fields ← Document.fields? ["markers", "bindings", "output"] v
  return {
    markers := ← fields.withDefault "markers" {} MarkerSettings.ofDocument?
    bindings := ← fields.withDefault "bindings" {} BindingSettings.ofDocument?
    output := ← fields.withDefault "output" {} OutputSettings.ofDocument?
  }

end Crosswalk
