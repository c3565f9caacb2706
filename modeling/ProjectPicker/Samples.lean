import ProjectPicker.Stack

/-!
# Samples

* `Samples.templates`, `Samples.stackList` : a small catalogue and the stacks that go with it.
-/

set_option autoImplicit false

namespace ProjectPicker.Samples

/-- A template whose display name is its name, and whose path follows from it. -/
def template (name projectType : String) (tags : List String) : Template :=
  { name, displayName := name, projectType, tags, path := "/" ++ name }

def templates : List Template := [
  template "web-java-spring" "maven" ["Java", "Spring", "Maven"],
  template "console-java-simple" "maven" ["Java", "Maven"],
  template "web-java-petclinic" "maven" ["Java", "MySQL"],
  template "console-python3-simple" "python" ["Python"],
  template "nodejs-hello-world" "node-js" ["Node.js", "JavaScript"],
  template "blank-project" "blank" []]

def stack (id : String) (tags : List String) : Stack := { id, name := id, tags }

/-- The stacks that go with the catalogue. The last has no tags. -/
def stackList : List Stack := [
  stack "java-default" ["Java", "JDK", "Maven"],
  stack "java-mysql" ["Java", "MySQL"],
  stack "python-default" ["Python"],
  stack "node-default" ["Node.js"],
  stack "untagged" []]

end ProjectPicker.Samples
