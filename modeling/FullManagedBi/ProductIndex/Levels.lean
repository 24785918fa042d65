import FullManagedBi.Lib.Json

/-!
# Stocking groups of product levels

`countLevelGroups` (`src/webapi-history/product-index.mjs`) folds the platform's level names into the
stocking groups the product page shows, and counts the rows of each. A level name no group lists counts
as `UNCLASSIFIED`; a row without a level name has no group.
-/

namespace FullManagedBi.ProductIndex

open Lib

/-- The stocking groups, and the bucket of the level names none of them lists. -/
inductive LevelGroup where
  | new
  | stockA
  | stockB
  | guaranteed
  | clearance
  | blocked
  | unclassified
  deriving DecidableEq

instance : Fintype LevelGroup where
  elems := {.new, .stockA, .stockB, .guaranteed, .clearance, .blocked, .unclassified}
  complete group := by cases group <;> decide

/-- The level names of a group: `PRODUCT_LEVEL_GROUPS`. -/
def LevelGroup.names : LevelGroup → List String
  | .new => ["新款", "新款A", "新款未上架", "加码"]
  | .stockA => ["备货款A", "转款完成"]
  | .stockB => ["备货款B", "备货款C", "备货款C1", "秋冬款", "转款中"]
  | .guaranteed => ["保证在售款", "回流款", "回流待上架", "过渡款"]
  | .clearance => ["售完下架", "清仓款", "退供款", "重复款", "自主下架", "自主停产", "淘汰过渡款", "物料下架",
      "淘汰款", "供应商淘汰", "回收站款", "废弃款", "Flat款", "特价处理款"]
  | .blocked => ["问题款", "暂不下架", "待处理议价", "议价失败款", "QQK", "QQQCK", "QQSSK", "QQXHK", "DTQQK",
      "授权过期", "热销断码款", "春夏款", "停产停供", "无货下架", "全站下架款"]
  | .unclassified => []

/-- The keys of `PRODUCT_LEVEL_GROUPS`, in its order. -/
def productLevelGroups : List LevelGroup := [.new, .stockA, .stockB, .guaranteed, .clearance, .blocked]

/-- `text`: the trimmed text of a value, where it is not empty. -/
def text (value : Option Json) : Option String :=
  match nullish value none with
  | none => none
  | some value =>
    let result := jsTrim value.text
    if result = "" then none else some result

def productLevelGroup (levelName : Option Json) : Option LevelGroup :=
  (text levelName).map fun name =>
    (productLevelGroups.find? fun group => group.names.contains name).getD .unclassified

/-- What `countLevelGroups` returns: the count of each group, and the total. -/
structure LevelGroupCounts where
  group : LevelGroup → Nat
  total : Nat

def LevelGroupCounts.groupSum (counts : LevelGroupCounts) : Nat := ∑ group, counts.group group

/-- One pass of the loop: the row counts in the total, and in its group where it has one. -/
def LevelGroupCounts.add (counts : LevelGroupCounts) (entry : Json) : LevelGroupCounts where
  group :=
    match productLevelGroup (entry.field? "goodsLevelName") with
    | some group => Function.update counts.group group (counts.group group + 1)
    | none => counts.group
  total := counts.total + 1

def countLevelGroups (entries : List Json) : LevelGroupCounts :=
  entries.foldl .add { group := fun _ => 0, total := 0 }

/-- The row has a level name: a value whose text is not blank. -/
def HasLevelName (entry : Json) : Prop := (text (entry.field? "goodsLevelName")).isSome

instance (entry : Json) : Decidable (HasLevelName entry) := inferInstanceAs (Decidable (_ = true))

end FullManagedBi.ProductIndex
