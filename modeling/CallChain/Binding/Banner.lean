import CallChain.Binding.Reflected

/-! Banners: a structure with one exposed field of every type. -/

namespace CallChain

/-- A banner to be shown over a scene. -/
structure Banner where
  title : String
  body : String
  count : Int64
  width : Binary64
  visible : Bool
  icon : Handle
deriving DecidableEq, Repr

namespace Banner

/-- A banner with every field at zero. -/
def zero : Banner := ⟨"", "", 0, .zero, false, .invalid⟩

/-- What the fields of a banner hold, under the names they are exposed by. -/
def entries (banner : Banner) : List (String × Value) :=
  [("Title", .string banner.title), ("Body", .text banner.body), ("Count", .integer banner.count),
    ("Width", .float banner.width), ("Visible", .bool banner.visible),
    ("Icon", .object banner.icon)]

instance : Reflected Banner where
  typeName := "Banner"
  fields :=
    [.plain "Title" .string Banner.title fun banner title => { banner with title },
      .plain "Body" .text Banner.body fun banner body => { banner with body },
      .plain "Count" .integer Banner.count fun banner count => { banner with count },
      .plain "Width" .float Banner.width fun banner width => { banner with width },
      .plain "Visible" .boolean Banner.visible fun banner visible => { banner with visible },
      .plain "Icon" .object Banner.icon fun banner icon => { banner with icon }]

end Banner

end CallChain
