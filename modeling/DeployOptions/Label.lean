import DeployOptions.Assoc
import DeployOptions.Image
import DeployOptions.Value.Basic

/-! Labels of deployed objects, put together from layers. -/
namespace DeployOptions

abbrev Labels := List (String × Value)

namespace Labels

/-- Puts layers together; a later layer wins over an earlier one. -/
def merge (layers : List Labels) : Labels := layers.foldl Assoc.update []

def applicationType : String := "application"

def metering (component version type : Value) : Labels :=
  [("com.company", .str "Red_Hat"),
    ("rht.prod_name", .str "Red_Hat_Integration"),
    ("rht.prod_ver", .str "master"),
    ("rht.comp", .str "3scale"),
    ("rht.comp_ver", version),
    ("rht.subcomp", component),
    ("rht.subcomp_t", type)]

/-- The labels of a pod template: metering, then the labels of its group, then its tier. -/
def podTemplate (component : String) (image : String) (common : Labels) : Labels :=
  merge [metering component (String.ofList (Image.version image.toList)) applicationType, common,
    [("deploymentConfig", .str component)]]

def toValue (labels : Labels) : Value := .map (labels.map fun (k, v) => (.str k, v))

end Labels
end DeployOptions
