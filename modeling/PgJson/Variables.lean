namespace PgJson

abbrev Variables := String → Option String

namespace Variables

def ofList (pairs : List (String × String)) : Variables := fun name => pairs.lookup name

def backedBy (first second : Variables) : Variables := fun name => (first name).or (second name)

theorem backedBy_of_some {first second : Variables} {name value : String}
    (h : first name = some value) : first.backedBy second name = some value := by
  simp [backedBy, h]

theorem backedBy_of_none {first second : Variables} {name : String} (h : first name = none) :
    first.backedBy second name = second name := by
  simp [backedBy, h]

end Variables
end PgJson
