import Crosswalk.Text.Affix

/-!
# Settings

What a project may choose: which package declares the markers, what the source
and the destination of a mapping are called when the program does not name
them, and how generated files look. Every choice has a default, so a project
without settings gets the stock behaviour.
-/

namespace Crosswalk

/-- Where the markers are declared. -/
structure MarkerSettings where
  /-- A package declares markers when its import path ends in this. -/
  package : String := "github.com/paultyng/go-typemapper"
deriving DecidableEq, Repr, Inhabited

/-- **Whether a package declares markers.** No package does when no path is
set. -/
def MarkerSettings.isMarkerPackage (s : MarkerSettings) (package : String) : Bool :=
  s.package ≠ "" && Text.endsIn s.package package

/-- What nameless variables are called. -/
structure BindingSettings where
  /-- The name of the source. -/
  source : String := "src"
  /-- The name of the destination. -/
  destination : String := "dst"
deriving DecidableEq, Repr, Inhabited

/-- How generated files look. -/
structure OutputSettings where
  /-- What follows the stem in the names of generated files. -/
  suffix : String := "generated"
  /-- The build tag of the marker files, which generated files must lack. -/
  buildTag : String := "typemapper"
  /-- The comment at the top of every generated file, line by line. -/
  header : List String := ["Code generated by typemapper. DO NOT EDIT."]
deriving DecidableEq, Repr, Inhabited

/-- **All the choices of a project.** -/
structure Settings where
  /-- Where the markers are declared. -/
  markers : MarkerSettings := {}
  /-- What nameless variables are called. -/
  bindings : BindingSettings := {}
  /-- How generated files look. -/
  output : OutputSettings := {}
deriving DecidableEq, Repr, Inhabited

end Crosswalk
