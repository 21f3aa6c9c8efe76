/-! # Display sizes -/

namespace DesignLint.Displays

def watches : List String := [
  "136x170", "170x136", "156x195", "195x156", "162x197", "197x162", "184x224", "224x184",
  "176x215", "215x176", "198x242", "242x198"]

def televisions : List String := ["1920x1080", "1080x1920"]

def touchBars : List String := ["1085x30"]

def phones : List String := [
  "375x667", "667x375", "375x812", "812x375", "414x896", "896x414", "390x844", "844x390",
  "428x926", "926x428"]

def tablets : List String := [
  "768x1024", "1024x768", "744x1133", "1133x744", "810x1080", "1080x810", "834x1112", "1112x834",
  "820x1180", "1180x820", "1024x1366", "1366x1024"]

def all : List String := watches ++ televisions ++ touchBars ++ phones ++ tablets

end DesignLint.Displays
