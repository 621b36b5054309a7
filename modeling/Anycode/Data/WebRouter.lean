import Mathlib.Data.List.Infix

/-!
# Routers of a web framework

Routers are built by adding routes, fallbacks, layers and nested or merged routers. They are
seen through what a path meets, and a framework is given by the laws of its operations.
-/

namespace Anycode.Data

/-- A handler behind its layers, the outermost first, and the path that it is called with. -/
structure Endpoint (Layer Handler : Type) where
  layers : List Layer
  handler : Handler
  path : List Char
  deriving DecidableEq

def Endpoint.wrap {Layer Handler : Type} (layer : Layer) (endpoint : Endpoint Layer Handler) :
    Endpoint Layer Handler :=
  { endpoint with layers := layer :: endpoint.layers }

abbrev MethodRouter (Layer Handler : Type) := String → Option (Endpoint Layer Handler)

structure WebRouter (Layer Handler : Type) where
  Router : Type
  new : Router
  route : Router → List Char → (String → Bool) → Handler → Router
  fallback : Router → Handler → Router
  layer : Router → Layer → Router
  nest : Router → List Char → Router → Router
  merge : Router → Router → Router
  routed : Router → List Char → Option (MethodRouter Layer Handler)
  fallbackAt : Router → List Char → Option (Endpoint Layer Handler)
  /-- What a nested router sees of a path under its prefix. -/
  strip : List Char → List Char → Option (List Char)
  routed_new : ∀ path, routed new path = none
  fallbackAt_new : ∀ path, fallbackAt new path = none
  routed_route : ∀ r path accepts handler asked, routed r path = none →
    routed (route r path accepts handler) asked =
      if asked = path then some fun method => if accepts method then some ⟨[], handler, asked⟩ else none
      else routed r asked
  fallbackAt_route : ∀ r path accepts handler asked,
    fallbackAt (route r path accepts handler) asked = fallbackAt r asked
  routed_fallback : ∀ r handler path, routed (fallback r handler) path = routed r path
  fallbackAt_fallback : ∀ r handler path, (∀ path, fallbackAt r path = none) →
    fallbackAt (fallback r handler) path = some ⟨[], handler, path⟩
  routed_layer : ∀ r l path,
    routed (layer r l) path = (routed r path).map fun methods method => (methods method).map (.wrap l)
  fallbackAt_layer : ∀ r l path, fallbackAt (layer r l) path = (fallbackAt r path).map (.wrap l)
  routed_nest : ∀ r inner under path,
    routed (nest r under inner) path = ((strip under path).bind (routed inner)).or (routed r path)
  fallbackAt_nest : ∀ r inner under path,
    fallbackAt (nest r under inner) path = ((strip under path).bind (fallbackAt inner)).or (fallbackAt r path)
  routed_merge : ∀ a b path, routed a path = none ∨ routed b path = none →
    routed (merge a b) path = (routed a path).or (routed b path)
  fallbackAt_merge : ∀ a b path, (∃ path, fallbackAt a path = none) →
    fallbackAt (merge a b) path = (fallbackAt a path).or (fallbackAt b path)
  strip_prefix : ∀ under path rest, strip under path = some rest → under <+: path
  strip_under : ∀ under rest, rest ≠ [] → strip under (under ++ '/' :: rest) = some ('/' :: rest)

namespace WebRouter
variable {Layer Handler : Type}

/-- A route answers all methods of its path; the fallback is for paths without one. -/
def serve (framework : WebRouter Layer Handler) (r : framework.Router) (method : String) (path : List Char) :
    Option (Endpoint Layer Handler) :=
  match framework.routed r path with
  | some methods => methods method
  | none => framework.fallbackAt r path

/-! ### The routes of a router -/

/-- The router has routes for these paths only, and each of their endpoints satisfies `P`. -/
structure Routes (framework : WebRouter Layer Handler) (r : framework.Router) (paths : List (List Char))
    (P : Endpoint Layer Handler → Prop) : Prop where
  only : ∀ path, path ∉ paths → framework.routed r path = none
  each : ∀ path methods method endpoint, framework.routed r path = some methods →
    methods method = some endpoint → P endpoint

section
variable {framework : WebRouter Layer Handler} {r inner : framework.Router} {paths others : List (List Char)}
  {P Q : Endpoint Layer Handler → Prop}

theorem Routes.new : Routes framework framework.new [] P where
  only path _ := framework.routed_new path
  each path methods _ _ found := by
    rw [framework.routed_new] at found
    cases found

theorem Routes.route (routes : Routes framework r paths P) {path : List Char} (fresh : path ∉ paths)
    (accepts : String → Bool) {handler : Handler} (holds : P ⟨[], handler, path⟩) :
    Routes framework (framework.route r path accepts handler) (path :: paths) P where
  only asked absent := by
    obtain ⟨other, absent⟩ := List.ne_and_not_mem_of_not_mem_cons absent
    rw [framework.routed_route _ _ _ _ _ (routes.only path fresh), if_neg other]
    exact routes.only asked absent
  each asked methods method endpoint found answered := by
    rw [framework.routed_route _ _ _ _ _ (routes.only path fresh)] at found
    split at found
    · rename_i same
      cases found
      dsimp only at answered
      split at answered
      · cases answered
        rw [same]
        exact holds
      · cases answered
    · exact routes.each asked methods method endpoint found answered

theorem Routes.fallback (routes : Routes framework r paths P) (handler : Handler) :
    Routes framework (framework.fallback r handler) paths P where
  only path absent := by rw [framework.routed_fallback, routes.only path absent]
  each path methods method endpoint found answered := by
    rw [framework.routed_fallback] at found
    exact routes.each path methods method endpoint found answered

theorem Routes.layer (routes : Routes framework r paths P) {l : Layer}
    (wrapped : ∀ endpoint, P endpoint → Q (endpoint.wrap l)) : Routes framework (framework.layer r l) paths Q where
  only path absent := by rw [framework.routed_layer, routes.only path absent, Option.map_none]
  each path methods method endpoint found answered := by
    rw [framework.routed_layer] at found
    obtain ⟨original, listed, rfl⟩ := Option.map_eq_some_iff.mp found
    obtain ⟨bare, met, rfl⟩ := Option.map_eq_some_iff.mp answered
    exact wrapped bare (routes.each path original method bare listed met)

/-- A nested router without routes of its own. -/
theorem Routes.nest (routes : Routes framework r paths P) (bare : Routes framework inner [] P) (under : List Char) :
    Routes framework (framework.nest r under inner) paths P := by
  have same : ∀ path, framework.routed (framework.nest r under inner) path = framework.routed r path := by
    intro path
    rw [framework.routed_nest]
    cases framework.strip under path with
    | none => rfl
    | some rest => rw [Option.bind_some, bare.only rest List.not_mem_nil, Option.none_or]
  exact ⟨fun path absent => (same path).trans (routes.only path absent),
    fun path methods method endpoint found => routes.each path methods method endpoint ((same path).symm.trans found)⟩

theorem Routes.merge {a b : framework.Router} (first : Routes framework a paths P) (second : Routes framework b others P)
    (disjoint : ∀ path ∈ paths, path ∉ others) : Routes framework (framework.merge a b) (paths ++ others) P := by
  have merged : ∀ path, framework.routed (framework.merge a b) path =
      (framework.routed a path).or (framework.routed b path) := by
    intro path
    apply framework.routed_merge
    by_cases listed : path ∈ paths
    · exact .inr (second.only path (disjoint path listed))
    · exact .inl (first.only path listed)
  refine ⟨fun path absent => ?_, fun path methods method endpoint found answered => ?_⟩
  · rw [List.mem_append, not_or] at absent
    rw [merged, first.only path absent.1, second.only path absent.2, Option.none_or]
  · rw [merged] at found
    rcases Option.or_eq_some_iff.mp found with here | ⟨_, there⟩
    · exact first.each path methods method endpoint here answered
    · exact second.each path methods method endpoint there answered

end

/-! ### A framework -/

/-- A router that is the two tables through which it is seen. -/
structure Tables (Layer Handler : Type) where
  routed : List Char → Option (MethodRouter Layer Handler)
  fallbackAt : List Char → Option (Endpoint Layer Handler)

def stripUnder (under path : List Char) : Option (List Char) :=
  if under.isPrefixOf path then
    match path.drop under.length with
    | [] => some ['/']
    | '/' :: c :: rest => some ('/' :: c :: rest)
    | _ => none
  else none

def tables (Layer Handler : Type) : WebRouter Layer Handler where
  Router := Tables Layer Handler
  new := ⟨fun _ => none, fun _ => none⟩
  route r path accepts handler :=
    { r with
      routed := fun asked =>
        if asked = path then some fun method => if accepts method then some ⟨[], handler, asked⟩ else none
        else r.routed asked }
  fallback r handler := { r with fallbackAt := fun path => some ⟨[], handler, path⟩ }
  layer r l :=
    { routed := fun path => (r.routed path).map fun methods method => (methods method).map (.wrap l)
      fallbackAt := fun path => (r.fallbackAt path).map (.wrap l) }
  nest r under inner :=
    { routed := fun path => ((stripUnder under path).bind inner.routed).or (r.routed path)
      fallbackAt := fun path => ((stripUnder under path).bind inner.fallbackAt).or (r.fallbackAt path) }
  merge a b :=
    { routed := fun path => (a.routed path).or (b.routed path)
      fallbackAt := fun path => (a.fallbackAt path).or (b.fallbackAt path) }
  routed := Tables.routed
  fallbackAt := Tables.fallbackAt
  strip := stripUnder
  routed_new _ := rfl
  fallbackAt_new _ := rfl
  routed_route _ _ _ _ _ _ := rfl
  fallbackAt_route _ _ _ _ _ := rfl
  routed_fallback _ _ _ := rfl
  fallbackAt_fallback _ _ _ _ := rfl
  routed_layer _ _ _ := rfl
  fallbackAt_layer _ _ _ := rfl
  routed_nest _ _ _ _ := rfl
  fallbackAt_nest _ _ _ _ := rfl
  routed_merge _ _ _ _ := rfl
  fallbackAt_merge _ _ _ _ := rfl
  strip_prefix under path rest stripped := by
    unfold stripUnder at stripped
    split at stripped
    · rename_i starts
      exact List.isPrefixOf_iff_prefix.mp starts
    · cases stripped
  strip_under under rest nonempty := by
    obtain ⟨c, rest, rfl⟩ := List.exists_cons_of_ne_nil nonempty
    rw [stripUnder, if_pos (List.isPrefixOf_iff_prefix.mpr (List.prefix_append _ _)), List.drop_left]
    rfl

end WebRouter

end Anycode.Data
