import FocusBilling.Text.Blank

/-!
# Columns of the FOCUS schema

The closed set of columns that a conversion may produce, in alphabetical order.

* `FocusColumn` : the columns;
* `FocusColumn.all` : all of them, in order;
* `FocusColumn.ofName?` : the column of a name, blanks around it ignored.
-/

namespace FocusBilling

/-- A column of the FOCUS schema. -/
inductive FocusColumn where
  | availabilityZone
  | billedCost
  | billedCurrency
  | billingAccountId
  | billingAccountName
  | billingPeriodEnd
  | billingPeriodStart
  | chargeCategory
  | chargeDescription
  | chargeFrequency
  | chargePeriodEnd
  | chargePeriodStart
  | chargeSubcategory
  | commitmentDiscountCategory
  | commitmentDiscountId
  | commitmentDiscountName
  | commitmentDiscountType
  | effectiveCost
  | invoiceIssuerName
  | listCost
  | listUnitPrice
  | pricingCategory
  | pricingQuantity
  | pricingUnit
  | providerName
  | publisherName
  | region
  | resourceId
  | resourceName
  | resourceType
  | serviceCategory
  | serviceName
  | skuId
  | skuPriceId
  | subAccountId
  | subAccountName
  | tags
  | usageQuantity
  | usageUnit
  deriving DecidableEq

namespace FocusColumn

/-- Every column, in alphabetical order. -/
def all : List FocusColumn :=
  [.availabilityZone, .billedCost, .billedCurrency, .billingAccountId, .billingAccountName,
   .billingPeriodEnd, .billingPeriodStart, .chargeCategory, .chargeDescription,
   .chargeFrequency, .chargePeriodEnd, .chargePeriodStart, .chargeSubcategory,
   .commitmentDiscountCategory, .commitmentDiscountId, .commitmentDiscountName,
   .commitmentDiscountType, .effectiveCost, .invoiceIssuerName, .listCost,
   .listUnitPrice, .pricingCategory, .pricingQuantity, .pricingUnit, .providerName,
   .publisherName, .region, .resourceId, .resourceName, .resourceType, .serviceCategory,
   .serviceName, .skuId, .skuPriceId, .subAccountId, .subAccountName, .tags,
   .usageQuantity, .usageUnit]

/-- The name of a column in a dataset. -/
def name : FocusColumn → String
  | .availabilityZone => "AvailabilityZone"
  | .billedCost => "BilledCost"
  | .billedCurrency => "BilledCurrency"
  | .billingAccountId => "BillingAccountId"
  | .billingAccountName => "BillingAccountName"
  | .billingPeriodEnd => "BillingPeriodEnd"
  | .billingPeriodStart => "BillingPeriodStart"
  | .chargeCategory => "ChargeCategory"
  | .chargeDescription => "ChargeDescription"
  | .chargeFrequency => "ChargeFrequency"
  | .chargePeriodEnd => "ChargePeriodEnd"
  | .chargePeriodStart => "ChargePeriodStart"
  | .chargeSubcategory => "ChargeSubcategory"
  | .commitmentDiscountCategory => "CommitmentDiscountCategory"
  | .commitmentDiscountId => "CommitmentDiscountId"
  | .commitmentDiscountName => "CommitmentDiscountName"
  | .commitmentDiscountType => "CommitmentDiscountType"
  | .effectiveCost => "EffectiveCost"
  | .invoiceIssuerName => "InvoiceIssuerName"
  | .listCost => "ListCost"
  | .listUnitPrice => "ListUnitPrice"
  | .pricingCategory => "PricingCategory"
  | .pricingQuantity => "PricingQuantity"
  | .pricingUnit => "PricingUnit"
  | .providerName => "ProviderName"
  | .publisherName => "PublisherName"
  | .region => "Region"
  | .resourceId => "ResourceId"
  | .resourceName => "ResourceName"
  | .resourceType => "ResourceType"
  | .serviceCategory => "ServiceCategory"
  | .serviceName => "ServiceName"
  | .skuId => "SkuId"
  | .skuPriceId => "SkuPriceId"
  | .subAccountId => "SubAccountId"
  | .subAccountName => "SubAccountName"
  | .tags => "Tags"
  | .usageQuantity => "UsageQuantity"
  | .usageUnit => "UsageUnit"

/-- The place of a column in `all`. -/
def index (c : FocusColumn) : Nat := all.idxOf c

/-- The column of a name; blanks around the name are ignored. -/
def ofName? (s : String) : Option FocusColumn :=
  let trimmed := Text.trim s
  all.find? fun c => c.name == trimmed

/-- What is said of a name that is no column of the schema. -/
def unknownMessage (s : String) : String := "'" ++ Text.trim s ++ "' is not a FOCUS column"

end FocusColumn

end FocusBilling
